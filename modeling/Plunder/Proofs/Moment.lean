import Plunder.Moment
import Plunder.Proofs.Text.Digit

/-!
# Moments out of their texts

Every moment that a form accepts is a point in time of the calendar, whether it came as a text or as
a number of seconds, and every such point is read back from its text.

Main statements:
- `dateOfDays_spec`: the days after the first of March of the year zero are dates of the calendar
- `valid_of_ofValue`: what a form accepts is a point in time
- `ofValue_text`: a point in time out of its text
-/

namespace Plunder.Moment

open Plunder.Text

/-! ## Definitions -/

/-- Whether a moment is a point in time of the calendar, of a year with at most four digits. -/
structure Valid (t : Moment) : Prop where
  year : 1 ≤ t.year ∧ t.year ≤ 9999
  day : 1 ≤ t.day ∧ t.day ≤ daysIn t.year t.month
  hour : t.hour ≤ 23
  minute : t.minute ≤ 59
  second : t.second ≤ 59
  micro : t.micro < 1000000
  offset : ∀ m ∈ t.offset, -1440 < m ∧ m < 1440

/-! ## The calendar -/

/-- The days before a year of four centuries, the years counted from March. -/
def daysBefore (y : Nat) : Nat := 365 * y + y / 4 - y / 100 + y / 400

/-- The days of four centuries without the leap days before each of them, more or less: what the
year is found by. -/
def commonDays (n : Nat) : Nat := n - n / 1460 + n / 36524 - n / 146096

private theorem commonDays_mono {m n : Nat} (h : m ≤ n) : commonDays m ≤ commonDays n := by
  induction h with
  | refl => exact Nat.le_refl _
  | step _ ih =>
    refine Nat.le_trans ih ?_
    -- A day more is at most one leap day more, and the ends of centuries come with them.
    unfold commonDays
    omega

/-- Each year begins and ends in the days by which it is found. -/
private theorem commonDays_daysBefore : ∀ y : Fin 400,
    365 * y.val ≤ commonDays (daysBefore y.val) ∧
      commonDays (daysBefore (y.val + 1) - 1) < 365 * (y.val + 1) := by
  decide +kernel

/-- Every day of four centuries is in one of their years. -/
private theorem exists_year {n : Nat} (k : Nat) (h : n < daysBefore k) :
    ∃ y < k, daysBefore y ≤ n ∧ n < daysBefore (y + 1) := by
  induction k with
  | zero => simp [daysBefore] at h
  | succ k ih =>
    by_cases hk : n < daysBefore k
    · obtain ⟨y, hy, hn⟩ := ih hk
      exact ⟨y, Nat.lt_succ_of_lt hy, hn⟩
    · exact ⟨k, Nat.lt_succ_self k, Nat.le_of_not_lt hk, h⟩

/-- **The year of a day**: it is found by dividing, and the day is in it. -/
private theorem year_spec {n : Nat} (h : n < 146097) :
    commonDays n / 365 < 400 ∧ daysBefore (commonDays n / 365) ≤ n ∧
      n < daysBefore (commonDays n / 365 + 1) := by
  obtain ⟨y, hy, hlow, hhigh⟩ := exists_year 400 (n := n) (by simpa [daysBefore] using h)
  obtain ⟨hbegin, hend⟩ := commonDays_daysBefore ⟨y, hy⟩
  have hyear : commonDays n / 365 = y := by
    have h₁ : 365 * y ≤ commonDays n := Nat.le_trans hbegin (commonDays_mono hlow)
    have h₂ : commonDays n < 365 * (y + 1) :=
      Nat.lt_of_le_of_lt (commonDays_mono (Nat.le_sub_one_of_lt hhigh)) hend
    omega
  rw [hyear]
  exact ⟨hy, hlow, hhigh⟩

/-- The month of a day of the year, counted from March. -/
def monthOf (k : Nat) : Nat :=
  if (5 * k + 2) / 153 < 10 then (5 * k + 2) / 153 + 3 else (5 * k + 2) / 153 - 9

/-- The day of the month of a day of the year, counted from March. -/
def dayOf (k : Nat) : Nat := k - (153 * ((5 * k + 2) / 153) + 2) / 5 + 1

/-- The last day of a year that is counted from March may be a leap day. -/
private theorem month_spec : ∀ k : Fin 366,
    1 ≤ dayOf k.val ∧ dayOf k.val ≤ daysIn 4 (monthOf k.val) ∧
      (k.val < 365 → dayOf k.val ≤ daysIn 1 (monthOf k.val)) ∧
        (monthOf k.val ≤ 2 ↔ 306 ≤ k.val) := by
  decide +kernel

private theorem daysIn_congr {y : Nat} (z m : Nat) (h : isLeap y = isLeap z) :
    daysIn y m = daysIn z m := by
  rw [daysIn, h, daysIn]

/-- A year has a leap day at its end if the one that follows in the calendar has one. -/
private theorem leap_spec (era : Nat) {y : Nat} (hy : y < 400) :
    daysBefore (y + 1) - daysBefore y = if isLeap (era * 400 + y + 1) then 366 else 365 := by
  have hleap : ∀ k : Fin 400, daysBefore (k.val + 1) - daysBefore k.val =
      if isLeap (k.val + 1) then 366 else 365 := by
    decide +kernel
  have hera : isLeap (era * 400 + y + 1) = isLeap (y + 1) := by
    simp only [isLeap]
    have h₁ : (era * 400 + y + 1) % 4 = (y + 1) % 4 := by omega
    have h₂ : (era * 400 + y + 1) % 100 = (y + 1) % 100 := by omega
    have h₃ : (era * 400 + y + 1) % 400 = (y + 1) % 400 := by omega
    rw [h₁, h₂, h₃]
  rw [hera]
  exact hleap ⟨y, hy⟩

/-- The parts of a date. -/
private theorem dateOfDays_eq (n : Nat) :
    ∃ y < 400, daysBefore y ≤ n % 146097 ∧ n % 146097 < daysBefore (y + 1) ∧
      dateOfDays n =
        (n / 146097 * 400 + y + (if monthOf (n % 146097 - daysBefore y) ≤ 2 then 1 else 0),
          monthOf (n % 146097 - daysBefore y), dayOf (n % 146097 - daysBefore y)) := by
  obtain ⟨hy, hlow, hhigh⟩ := year_spec (Nat.mod_lt n (by decide) : n % 146097 < 146097)
  refine ⟨_, hy, hlow, hhigh, ?_⟩
  have hstart : ∀ y < 400, daysBefore y = 365 * y + y / 4 - y / 100 := by
    intro y hy
    rw [daysBefore, Nat.div_eq_of_lt hy, Nat.add_zero]
  rw [hstart _ hy]
  rfl

/-- **The days are dates of the calendar**, from the first of January of the year one to the last of
December of the year 9999. -/
theorem dateOfDays_spec {n : Nat} (hlow : 306 ≤ n) (hhigh : n ≤ 3652364) :
    1 ≤ (dateOfDays n).1 ∧ (dateOfDays n).1 ≤ 9999 ∧ 1 ≤ (dateOfDays n).2.2 ∧
      (dateOfDays n).2.2 ≤ daysIn (dateOfDays n).1 (dateOfDays n).2.1 := by
  obtain ⟨y, hy, hbegin, hend, hdate⟩ := dateOfDays_eq n
  have hlength := leap_spec (n / 146097) hy
  have hk : n % 146097 - daysBefore y < 366 := by
    split at hlength <;> omega
  obtain ⟨hday, hleap, hcommon, hmonth⟩ := month_spec ⟨n % 146097 - daysBefore y, hk⟩
  rw [hdate]
  simp only at hday hleap hcommon hmonth ⊢
  refine ⟨?_, ?_, hday, ?_⟩
  · -- The days before the first of January of the year one are not among them.
    refine Nat.one_le_iff_ne_zero.2 fun hzero => ?_
    have hera : n / 146097 = 0 ∧ y = 0 := by omega
    have hfirst : monthOf (n % 146097 - daysBefore y) ≤ 2 := by
      rw [hmonth, hera.2]
      simp only [daysBefore]
      omega
    simp [hfirst] at hzero
  · -- The last of the years ends with December.
    refine Nat.le_of_not_lt fun hlast => ?_
    have hera : n / 146097 = 24 ∧ y = 399 ∧ monthOf (n % 146097 - daysBefore y) ≤ 2 := by
      split at hlast <;> omega
    obtain ⟨h₁, h₂, h₃⟩ := hera
    rw [hmonth, h₂] at h₃
    simp only [daysBefore] at h₃
    omega
  · by_cases hfeb : monthOf (n % 146097 - daysBefore y) = 2
    · -- February is the last month, and its length tells whether the year is a leap year.
      rw [if_pos (Nat.le_of_eq hfeb)]
      cases hl : isLeap (n / 146097 * 400 + y + 1) with
      | true =>
        rw [daysIn_congr 4 _ (by rw [hl]; rfl)]
        exact hleap
      | false =>
        rw [daysIn_congr 1 _ (by rw [hl]; rfl)]
        rw [hl] at hlength
        simp only [Bool.false_eq_true, if_false] at hlength
        exact hcommon (by omega)
    · -- The other months are the same in every year.
      have hsame : ∀ z, daysIn z (monthOf (n % 146097 - daysBefore y)) =
          daysIn 4 (monthOf (n % 146097 - daysBefore y)) := by
        intro z
        simp only [daysIn, hfeb, if_false]
      rw [hsame]
      exact hleap

/-! ## Points in time -/

theorem valid_of_ofSeconds? {seconds : Int} {micro : Nat} {t : Moment} (hm : micro < 1000000)
    (h : ofSeconds? seconds micro = some t) : t.Valid := by
  unfold ofSeconds? at h
  split at h
  · cases h
  · next hrange =>
    simp only [secondRange, not_or, Int.not_lt] at hrange
    have hdiv : seconds.fdiv 86400 = seconds / 86400 := Int.fdiv_eq_ediv_of_nonneg _ (by decide)
    have hmod : seconds.fmod 86400 = seconds % 86400 := Int.fmod_eq_emod_of_nonneg _ (by decide)
    obtain ⟨h₁, h₂, h₃, h₄⟩ := dateOfDays_spec (n := (seconds / 86400 + daysToEpoch).toNat)
      (by simp only [daysToEpoch]; omega) (by simp only [daysToEpoch]; omega)
    simp only [hdiv, hmod, Option.some.injEq] at h
    subst h
    have hrest : (seconds % 86400).toNat < 86400 := by omega
    refine ⟨⟨h₁, h₂⟩, ⟨h₃, h₄⟩, ?_, ?_, ?_, hm, ?_⟩
    · show (seconds % 86400).toNat / 3600 ≤ 23
      omega
    · show (seconds % 86400).toNat / 60 % 60 ≤ 59
      omega
    · show (seconds % 86400).toNat % 60 ≤ 59
      omega
    · intro m hm
      obtain rfl : 0 = m := by simpa using hm
      decide

theorem valid_of_ofStamp? {n : Int} {micro : Nat} {t : Moment} (h : ofStamp? n micro = some t) :
    t.Valid :=
  valid_of_ofSeconds? (Nat.mod_lt _ (by decide)) h

theorem valid_of_stamp? {cs : List Char} {t : Moment} (h : stamp? cs = some t) : t.Valid := by
  unfold stamp? at h
  simp only at h
  split at h
  · split at h
    · cases h
    · exact valid_of_ofStamp? h
  · split at h
    · obtain ⟨below, -, h⟩ := Option.bind_eq_some_iff.1 h
      exact valid_of_ofStamp? h
    · cases h
  · cases h

/-! ## Reading -/

private theorem two?_lt {cs rest : List Char} {n : Nat} (h : two? cs = some (n, rest)) :
    n < 100 := by
  unfold two? at h
  split at h
  · obtain ⟨a, ha, h⟩ := Option.bind_eq_some_iff.1 h
    obtain ⟨b, hb, h⟩ := Option.bind_eq_some_iff.1 h
    have := asciiDigit?_lt ha
    have := asciiDigit?_lt hb
    simp only [Option.some.injEq, Prod.mk.injEq] at h
    omega
  · cases h

/-- The date of a text is one of the calendar. -/
private theorem date?_spec {cs rest : List Char} {y m d : Nat}
    (h : date? cs = some ((y, m, d), rest)) :
    (1 ≤ y ∧ y ≤ 9999) ∧ 1 ≤ d ∧ d ≤ daysIn y m := by
  unfold date? at h
  obtain ⟨⟨century, cs₁⟩, hcentury, h⟩ := Option.bind_eq_some_iff.1 h
  obtain ⟨⟨year, cs₂⟩, hyear, h⟩ := Option.bind_eq_some_iff.1 h
  have := two?_lt hcentury
  have := two?_lt hyear
  simp only at h
  split at h
  · obtain ⟨⟨m', cs₃⟩, -, h⟩ := Option.bind_eq_some_iff.1 h
    simp only at h
    split at h
    · obtain ⟨⟨d', cs₄⟩, -, h⟩ := Option.bind_eq_some_iff.1 h
      simp only at h
      split at h
      · next hdate =>
        simp only [Option.some.injEq, Prod.mk.injEq] at h
        obtain ⟨⟨rfl, rfl, rfl⟩, -⟩ := h
        exact ⟨⟨hdate.1, by omega⟩, hdate.2⟩
      · cases h
    · cases h
  · cases h

private theorem microOf_lt {ds : List Nat} (h : ∀ d ∈ ds, d < 10) : microOf ds < 1000000 := by
  have hlength : (ds.take 6).length ≤ 6 := List.length_take_le 6 ds
  have hvalue : valueIn 10 (ds.take 6) < 10 ^ (ds.take 6).length :=
    valueIn_lt fun d hd => h d (List.mem_of_mem_take hd)
  calc microOf ds
      = valueIn 10 (ds.take 6) * 10 ^ (6 - (ds.take 6).length) := rfl
    _ < 10 ^ (ds.take 6).length * 10 ^ (6 - (ds.take 6).length) :=
      Nat.mul_lt_mul_of_pos_right hvalue (Nat.pow_pos (by decide))
    _ = 1000000 := by rw [← Nat.pow_add, Nat.add_sub_cancel' hlength]

/-- The seconds of a text are those of a minute. -/
private theorem seconds?_spec {cs rest : List Char} {s micro : Nat}
    (h : seconds? cs = some ((s, micro), rest)) : s ≤ 59 ∧ micro < 1000000 := by
  unfold seconds? at h
  split at h
  · obtain ⟨⟨s', cs₁⟩, -, h⟩ := Option.bind_eq_some_iff.1 h
    simp only at h
    split at h
    · cases h
    · next hs =>
      split at h
      · split at h
        · split at h
          · cases h
          · simp only [Option.some.injEq, Prod.mk.injEq] at h
            obtain ⟨⟨rfl, rfl⟩, -⟩ := h
            refine ⟨by omega, microOf_lt fun d hd => ?_⟩
            obtain ⟨c, -, hc⟩ := List.mem_filterMap.1 hd
            exact asciiDigit?_lt hc
        · simp only [Option.some.injEq, Prod.mk.injEq] at h
          omega
      · simp only [Option.some.injEq, Prod.mk.injEq] at h
        omega
  · simp only [Option.some.injEq, Prod.mk.injEq] at h
    omega

/-- The offset of a text is less than a day. -/
private theorem offset?_spec {cs : List Char} {offset : Option Int} (h : offset? cs = some offset) :
    ∀ m ∈ offset, -1440 < m ∧ m < 1440 := by
  rintro m rfl
  unfold offset? at h
  split at h
  · cases h
  · cases h
    decide
  · cases h
    decide
  · split at h
    · obtain ⟨⟨hours, cs₁⟩, -, h⟩ := Option.bind_eq_some_iff.1 h
      simp only at h
      split at h
      · split at h
        · cases h
        · simp only [Option.some.injEq] at h
          split at h <;> omega
      · cases h
    · cases h

private theorem valid_of_full? {cs : List Char} {t : Moment} (h : full? cs = some t) : t.Valid := by
  unfold full? at h
  obtain ⟨⟨⟨y, m, d⟩, cs₁⟩, hdate, h⟩ := Option.bind_eq_some_iff.1 h
  simp only at h
  split at h
  · split at h
    · cases h
    · obtain ⟨⟨hour, cs₂⟩, -, h⟩ := Option.bind_eq_some_iff.1 h
      simp only at h
      split at h
      · obtain ⟨⟨minute, cs₃⟩, -, h⟩ := Option.bind_eq_some_iff.1 h
        simp only at h
        split at h
        · cases h
        · next hclock =>
          obtain ⟨⟨⟨s, micro⟩, cs₄⟩, hseconds, h⟩ := Option.bind_eq_some_iff.1 h
          obtain ⟨offset, hoffset, h⟩ := Option.bind_eq_some_iff.1 h
          obtain ⟨hyear, hday⟩ := date?_spec hdate
          obtain ⟨hs, hmicro⟩ := seconds?_spec hseconds
          obtain rfl := Option.some.inj h
          exact ⟨hyear, hday, by simp only; omega, by simp only; omega, hs, hmicro,
            offset?_spec hoffset⟩
      · cases h
  · cases h

private theorem valid_of_dateOnly? {cs : List Char} {t : Moment} (h : dateOnly? cs = some t) :
    t.Valid := by
  unfold dateOnly? at h
  split at h
  · next hdate =>
    obtain ⟨hyear, hday⟩ := date?_spec hdate
    obtain rfl := Option.some.inj h
    exact ⟨hyear, hday, by simp, by simp, by simp, by simp, by simp⟩
  · cases h

theorem valid_of_parse? {s : String} {t : Moment} (h : parse? s = some t) : t.Valid := by
  simp only [parse?, Option.orElse_eq_orElse, Option.orElse_eq_or, Option.or_eq_some_iff] at h
  rcases h with h | ⟨-, h | ⟨-, h⟩⟩
  · exact valid_of_full? h
  · exact valid_of_stamp? h
  · exact valid_of_dateOnly? h

/-- **What a form accepts is a point in time**, whether it is a text or a number. -/
theorem valid_of_ofValue {v : Value} {t : Moment} (h : ofValue v = .ok t) : t.Valid := by
  unfold ofValue at h
  simp only at h
  split at h
  · split at h
    · split at h
      · next hstamp =>
        obtain rfl := Except.ok.inj h
        exact valid_of_ofStamp? hstamp
      · cases h
    · cases h
  · split at h
    · split at h
      · next hstamp =>
        obtain rfl := Except.ok.inj h
        exact valid_of_ofStamp? hstamp
      · cases h
    · cases h
  · split at h
    · split at h
      · next hparse =>
        obtain rfl := Except.ok.inj h
        exact valid_of_parse? hparse
      · cases h
    · cases h
    · cases h

/-! ## Writing and reading back -/

theorem two?_digitChar {a b : Nat} (ha : a < 10) (hb : b < 10) (rest : List Char) :
    two? (Nat.digitChar a :: Nat.digitChar b :: rest) = some (10 * a + b, rest) := by
  simp [two?, asciiDigit?_digitChar ha, asciiDigit?_digitChar hb]

/-- The digits of a number of two. -/
private theorem two?_pad {n : Nat} (hn : n < 100) (rest : List Char) :
    two? (pad 2 n ++ rest) = some (n, rest) := by
  have hlength : (pad 2 n).length = 2 := length_filled (by decide) (by decide) hn
  obtain ⟨ds, hds, hlt, hval⟩ : Spells 10 n (pad 2 n) := spells_filled (by decide) 2 n
  rw [hds, List.length_map] at hlength
  match ds, hlength with
  | [a, b], _ =>
    simp only [List.mem_cons, List.not_mem_nil, or_false, forall_eq_or_imp, forall_eq] at hlt
    simp only [valueIn, List.foldl_cons, List.foldl_nil] at hval
    rw [hds, List.map_cons, List.map_cons, List.map_nil, List.cons_append, List.cons_append,
      List.nil_append, two?_digitChar hlt.1 hlt.2]
    congr 2
    omega

/-- The digits of a year, as two numbers of two. -/
private theorem two?_year {y : Nat} (hy : y < 10000) (rest : List Char) :
    ∃ century year more, two? (pad 4 y ++ rest) = some (century, more) ∧
      two? more = some (year, rest) ∧ 100 * century + year = y := by
  have hlength : (pad 4 y).length = 4 := length_filled (by decide) (by decide) hy
  obtain ⟨ds, hds, hlt, hval⟩ : Spells 10 y (pad 4 y) := spells_filled (by decide) 4 y
  rw [hds, List.length_map] at hlength
  match ds, hlength with
  | [a, b, c, d], _ =>
    simp only [List.mem_cons, List.not_mem_nil, or_false, forall_eq_or_imp, forall_eq] at hlt
    obtain ⟨ha, hb, hc, hd⟩ := hlt
    simp only [valueIn, List.foldl_cons, List.foldl_nil] at hval
    rw [hds]
    exact ⟨_, _, _, two?_digitChar ha hb _, two?_digitChar hc hd _, by omega⟩

variable {t : Moment}

private theorem daysIn_le {y m d : Nat} (hd : 1 ≤ d) (h : d ≤ daysIn y m) : m ≤ 12 ∧ d ≤ 31 := by
  unfold daysIn at h
  grind

private theorem date?_chars (valid : t.Valid) (rest : List Char) :
    date? (pad 4 t.year ++ '-' :: (pad 2 t.month ++ '-' :: (pad 2 t.day ++ rest))) =
      some ((t.year, t.month, t.day), rest) := by
  obtain ⟨⟨hlow, hhigh⟩, ⟨hday, hdays⟩, -⟩ := valid
  obtain ⟨hm, hd⟩ := daysIn_le hday hdays
  obtain ⟨century, year, more, hcentury, hyear, hsum⟩ :=
    two?_year (y := t.year) (by omega) ('-' :: (pad 2 t.month ++ '-' :: (pad 2 t.day ++ rest)))
  have hmonth := two?_pad (n := t.month) (by omega) ('-' :: (pad 2 t.day ++ rest))
  have hdate := two?_pad (n := t.day) (by omega) rest
  simp [date?, hcentury, hyear, hsum, hmonth, hdate, hlow, hday, hdays]

/-- The characters of an offset, or of none. -/
def zoneChars (offset : Option Int) : List Char := (offset.map offsetChars).getD []

/-- The parts of a text, one behind the other. -/
private theorem chars_eq (t : Moment) :
    t.chars = pad 4 t.year ++ '-' :: (pad 2 t.month ++ '-' :: (pad 2 t.day ++ 'T' ::
      (pad 2 t.hour ++ ':' :: (pad 2 t.minute ++ ':' :: (pad 2 t.second ++
        ((if t.micro = 0 then [] else '.' :: pad 6 t.micro) ++ zoneChars t.offset)))))) := by
  unfold chars zoneChars
  cases t.offset <;> simp

/-- No offset begins like a fraction of a second, or with a digit. -/
private theorem head_zoneChars (offset : Option Int) :
    ∀ c ∈ (zoneChars offset).head?, c ≠ '.' ∧ c ≠ ',' ∧ isAsciiDigit c = false := by
  cases offset with
  | none => simp [zoneChars]
  | some m =>
    simp only [zoneChars, Option.map_some, Option.getD_some, offsetChars]
    split
    · simp; decide
    · split <;> simp <;> decide

private theorem seconds?_chars {s micro : Nat} {rest : List Char} (hs : s ≤ 59)
    (hmicro : micro < 1000000)
    (hrest : ∀ c ∈ rest.head?, c ≠ '.' ∧ c ≠ ',' ∧ isAsciiDigit c = false) :
    seconds? (':' :: (pad 2 s ++ ((if micro = 0 then [] else '.' :: pad 6 micro) ++ rest))) =
      some ((s, micro), rest) := by
  have htwo := two?_pad (n := s) (by omega)
    ((if micro = 0 then [] else '.' :: pad 6 micro) ++ rest)
  have hlimit : ¬ 59 < s := by omega
  simp only [seconds?, htwo, Option.bind_eq_bind, Option.bind_some, hlimit, if_false]
  by_cases hzero : micro = 0
  · subst hzero
    cases rest with
    | nil => rfl
    | cons c rest =>
      obtain ⟨hpoint, hcomma, -⟩ := hrest c rfl
      simp [hpoint, hcomma]
  · -- Six digits follow the point, and nothing of what comes after them is a digit.
    have hlength : (pad 6 micro).length = 6 := length_filled (by decide) (by decide) hmicro
    have hspells : Spells 10 micro (pad 6 micro) := spells_filled (by decide) 6 micro
    obtain ⟨htake, hdrop⟩ := hspells.takeWhile_append fun c hc => (hrest c hc).2.2
    obtain ⟨hcount, hvalue⟩ := hspells.filterMap_asciiDigit?
    have hmicros : microOf ((pad 6 micro).filterMap asciiDigit?) = micro := by
      have hsix : ((pad 6 micro).filterMap asciiDigit?).take 6 =
          (pad 6 micro).filterMap asciiDigit? :=
        List.take_of_length_le (by omega)
      simp [microOf, hsix, hvalue, hcount, hlength, tenPow]
    have hsome : ((pad 6 micro).filterMap asciiDigit?).isEmpty = false := by
      rw [List.isEmpty_eq_false_iff_exists_mem]
      exact List.exists_mem_of_length_pos (by omega)
    simp only [hzero, if_false, List.cons_append, true_or, if_true, htake, hdrop, hsome, hmicros,
      Bool.false_eq_true]

/-- The minutes of a zone, less than a day, behind their sign. -/
private theorem offset?_signed {c : Char} {n : Nat} (h : n < 1440) (sign : c = '+' ∨ c = '-') :
    offset? (c :: pad 2 (n / 60) ++ ':' :: pad 2 (n % 60)) =
      some (some (if c = '+' then (n : Int) else -n)) := by
  have hhours := two?_pad (n := n / 60) (by omega) (':' :: pad 2 (n % 60))
  have hminutes := two?_pad (n := n % 60) (by omega) []
  rw [List.append_nil] at hminutes
  rcases sign with rfl | rfl
  · simp [offset?, hhours, hminutes]
    omega
  · simp [offset?, hhours, hminutes]
    omega

private theorem offset?_zoneChars {offset : Option Int} (h : ∀ m ∈ offset, -1440 < m ∧ m < 1440) :
    offset? (zoneChars offset) = some offset := by
  cases offset with
  | none => rfl
  | some m =>
    obtain ⟨hlow, hhigh⟩ := h m rfl
    by_cases hzero : m = 0
    · subst hzero
      rfl
    · have hminutes : m.natAbs < 1440 := by omega
      simp only [zoneChars, Option.map_some, Option.getD_some, offsetChars, hzero, if_false]
      by_cases hneg : m < 0
      · have habs : -(m.natAbs : Int) = m := by omega
        rw [if_pos hneg, offset?_signed hminutes (.inr rfl), if_neg (by decide), habs]
      · have habs : (m.natAbs : Int) = m := by omega
        rw [if_neg hneg, offset?_signed hminutes (.inl rfl), if_pos rfl, habs]

theorem full?_chars (valid : t.Valid) : full? t.chars = some t := by
  have hhour := valid.hour
  have hminute := valid.minute
  have hoffset := offset?_zoneChars valid.offset
  have hseconds := seconds?_chars valid.second valid.micro (head_zoneChars t.offset)
  rw [chars_eq]
  generalize zoneChars t.offset = zone at hoffset hseconds ⊢
  generalize (if t.micro = 0 then [] else '.' :: pad 6 t.micro) = fraction at hseconds ⊢
  have hminutes := two?_pad (n := t.minute) (by omega)
    (':' :: (pad 2 t.second ++ (fraction ++ zone)))
  have hhours := two?_pad (n := t.hour) (by omega)
    (':' :: (pad 2 t.minute ++ ':' :: (pad 2 t.second ++ (fraction ++ zone))))
  have hdate := date?_chars valid
    ('T' :: (pad 2 t.hour ++ ':' :: (pad 2 t.minute ++ ':' :: (pad 2 t.second ++
      (fraction ++ zone)))))
  have hclock : ¬ (23 < t.hour ∨ 59 < t.minute) := by omega
  simp only [full?, hdate, Option.bind_eq_bind, Option.bind_some, hhours, hminutes, hclock,
    hseconds, hoffset, if_false]
  rfl

/-- **A point in time out of its text.** -/
theorem ofValue_text (valid : t.Valid) : ofValue (.text t.text) = .ok t := by
  have hparse : parse? t.text = some t := by
    simp only [parse?, text, String.toList_ofList, full?_chars valid]
    rfl
  simp only [ofValue, Form.numeral?, String.ofList_toList, hparse]

end Plunder.Moment
