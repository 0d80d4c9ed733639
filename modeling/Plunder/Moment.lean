import Plunder.Form.Scalar

/-!
# Moments

Points in time of the Gregorian calendar, to the microsecond, with or without an offset from UTC,
and their texts in ISO 8601.

* `Moment.parse?`: a moment out of a text; a date alone stands for its midnight
* `Moment.text`: the text of a moment
* `Moment.ofSeconds?`: the moment at a number of seconds, or of milliseconds, since 1970
-/

namespace Plunder

/-- A point in time; the offset from UTC is in minutes. -/
structure Moment where
  year : Nat
  month : Nat
  day : Nat
  hour : Nat
  minute : Nat
  second : Nat
  micro : Nat
  offset : Option Int
  deriving DecidableEq

namespace Moment

/-! ## The calendar -/

/-- Whether the year has 366 days. -/
def isLeap (y : Nat) : Bool := y % 4 == 0 && (y % 100 != 0 || y % 400 == 0)

/-- How many days a month has; none if there is no such month. -/
def daysIn (y m : Nat) : Nat :=
  if m = 2 then if isLeap y then 29 else 28
  else if m = 4 ∨ m = 6 ∨ m = 9 ∨ m = 11 then 30
  else if 1 ≤ m ∧ m ≤ 12 then 31
  else 0

/-- The date that comes the given number of days after the first of March of the year zero. -/
def dateOfDays (days : Nat) : Nat × Nat × Nat :=
  -- Four centuries repeat themselves. A year is counted from March, so that a leap day ends it.
  let era := days / 146097
  let dayOfEra := days % 146097
  let yearOfEra := (dayOfEra - dayOfEra / 1460 + dayOfEra / 36524 - dayOfEra / 146096) / 365
  let dayOfYear := dayOfEra - (365 * yearOfEra + yearOfEra / 4 - yearOfEra / 100)
  let shifted := (5 * dayOfYear + 2) / 153
  let day := dayOfYear - (153 * shifted + 2) / 5 + 1
  let month := if shifted < 10 then shifted + 3 else shifted - 9
  (era * 400 + yearOfEra + (if month ≤ 2 then 1 else 0), month, day)

/-- How many days lie between the first of March of the year zero and the first of January 1970. -/
def daysToEpoch : Nat := 719468

/-- The first and the last second, counted from 1970, that have a moment. -/
def secondRange : Int × Int := (-62135596800, 253402300799)

/-- The moment in UTC at a number of seconds since 1970. -/
def ofSeconds? (seconds : Int) (micro : Nat) : Option Moment :=
  if seconds < secondRange.1 ∨ secondRange.2 < seconds then none
  else
    let days := seconds.fdiv 86400
    let rest := (seconds.fmod 86400).toNat
    let (y, m, d) := dateOfDays (days + daysToEpoch).toNat
    some ⟨y, m, d, rest / 3600, rest / 60 % 60, rest % 60, micro, some 0⟩

/-- Numbers beyond this are milliseconds. -/
def millisecondMark : Nat := 20000000000

/-- The moment that a whole number stands for, seconds since 1970 or milliseconds, and some
microseconds after it. -/
def ofStamp? (n : Int) (micro : Nat) : Option Moment :=
  let (seconds, extra) :=
    if n.natAbs ≤ millisecondMark then (n, 0) else (n.fdiv 1000, (n.fmod 1000).toNat * 1000)
  let total := extra + micro
  ofSeconds? (seconds + (total / 1000000 : Nat)) (total % 1000000)

/-- The microseconds in a fraction of a second, to the nearest. -/
def microsOf (fraction : Binary64) : Nat := (fraction.mul (.ofNat 1000000)).roundUp

/-! ## Writing -/

/-- A number filled up with zeros on the left. -/
def pad (width n : Nat) : List Char :=
  let ds := Text.natDigits n
  List.replicate (width - ds.length) '0' ++ ds

def offsetChars (minutes : Int) : List Char :=
  if minutes = 0 then ['Z']
  else
    let n := minutes.natAbs
    (if minutes < 0 then '-' else '+') :: pad 2 (n / 60) ++ ':' :: pad 2 (n % 60)

/-- The characters of a moment. -/
def chars (t : Moment) : List Char :=
  pad 4 t.year ++ '-' :: pad 2 t.month ++ '-' :: pad 2 t.day ++ 'T' :: pad 2 t.hour ++ ':' ::
    pad 2 t.minute ++ ':' :: pad 2 t.second ++
    (if t.micro = 0 then [] else '.' :: pad 6 t.micro) ++
    (match t.offset with
    | some m => offsetChars m
    | none => [])

/-- The text of a moment: seconds always, microseconds where they are not zero, and the offset. -/
def text (t : Moment) : String := String.ofList t.chars

/-! ## Reading -/

/-- A number of two digits and what follows it. -/
def two? : List Char → Option (Nat × List Char)
  | a :: b :: rest => do
    let a ← Text.asciiDigit? a
    let b ← Text.asciiDigit? b
    some (10 * a + b, rest)
  | _ => none

/-- A date and what follows it. -/
def date? (cs : List Char) : Option ((Nat × Nat × Nat) × List Char) := do
  let (century, cs) ← two? cs
  let (year, cs) ← two? cs
  let y := 100 * century + year
  match cs with
  | '-' :: cs =>
    let (m, cs) ← two? cs
    match cs with
    | '-' :: cs =>
      let (d, cs) ← two? cs
      if 1 ≤ y ∧ 1 ≤ d ∧ d ≤ daysIn y m then some ((y, m, d), cs) else none
    | _ => none
  | _ => none

/-- The microseconds that the digits after the point stand for; those beyond six are cut off. -/
def microOf (ds : List Nat) : Nat :=
  let six := ds.take 6
  Text.foldDigits six * tenPow (6 - six.length)

/-- Seconds with their fraction, where the text goes on with them, and what follows. -/
def seconds? : List Char → Option ((Nat × Nat) × List Char)
  | ':' :: cs => do
    let (s, cs) ← two? cs
    if 59 < s then none
    else
      match cs with
      | c :: rest =>
        if c = '.' ∨ c = ',' then
          let ds := (rest.takeWhile Text.isAsciiDigit).filterMap Text.asciiDigit?
          if ds.isEmpty then none else some ((s, microOf ds), rest.dropWhile Text.isAsciiDigit)
        else some ((s, 0), cs)
      | [] => some ((s, 0), [])
  | cs => some ((0, 0), cs)

/-- An offset that ends the text: nothing, the letter of UTC, or a sign, hours and minutes. -/
def offset? : List Char → Option (Option Int)
  | [] => some none
  | ['Z'] | ['z'] => some (some 0)
  | c :: cs =>
    if c = '+' ∨ c = '-' ∨ c = '−' then do
      let (h, cs) ← two? cs
      let cs := match cs with
        | ':' :: cs => cs
        | cs => cs
      match two? cs with
      | some (m, []) =>
        let n : Int := 60 * h + m
        if 59 < m ∨ 1440 ≤ n then none else some (some (if c = '+' then n else -n))
      | _ => none
    else none

/-- Whether the character may stand between the date and the time. -/
def isSeparator (c : Char) : Bool := c == 'T' || c == 't' || c == ' ' || c == '_'

/-- A date, a separator, a time and an offset. -/
def full? (cs : List Char) : Option Moment := do
  let ((y, m, d), cs) ← date? cs
  match cs with
  | sep :: cs =>
    if !isSeparator sep then none
    else
      let (h, cs) ← two? cs
      match cs with
      | ':' :: cs =>
        let (min, cs) ← two? cs
        if 23 < h ∨ 59 < min then none
        else
          let ((s, micro), cs) ← seconds? cs
          let offset ← offset? cs
          some ⟨y, m, d, h, min, s, micro, offset⟩
      | _ => none
  | [] => none

/-- A number of seconds or milliseconds, with a fraction or without. -/
def stamp? (cs : List Char) : Option Moment := do
  let (negative, ds) := Numeral.splitSign cs
  let whole := ds.takeWhile Text.isAsciiDigit
  match ds.dropWhile Text.isAsciiDigit with
  | [] =>
    let n : Int := Text.foldDigits (whole.filterMap Text.asciiDigit?)
    if whole.isEmpty then none else ofStamp? (if negative then -n else n) 0
  | '.' :: fraction =>
    if fraction.all Text.isAsciiDigit && !(whole.isEmpty && fraction.isEmpty) then do
      let digits := Text.foldDigits ((whole ++ fraction).filterMap Text.asciiDigit?)
      let x := Numeral.decimalToBinary64 negative digits (-fraction.length)
      let mark := Binary64.ofNat millisecondMark
      let x := if mark.lt x || x.lt (.ofInt (-millisecondMark)) then x.divNat 1000 else x
      let below ← x.floor?
      ofStamp? below (microsOf (x.add (.ofInt (-below))))
    else none
  | _ => none

def dateOnly? (cs : List Char) : Option Moment :=
  match date? cs with
  | some ((y, m, d), []) => some ⟨y, m, d, 0, 0, 0, 0, none⟩
  | _ => none

def parse? (s : String) : Option Moment :=
  let cs := s.toList
  full? cs <|> stamp? cs <|> dateOnly? cs

/-- A moment in a form: a text, or a number of seconds or milliseconds since 1970. -/
def ofValue (v : Value) : Form.Checked Moment :=
  let stamped := fun (t : Option Moment) =>
    match t with
    | some t => Form.Checked.ok t
    | none => .defect .datetimeParsing
  match v with
  | .int n => if (Binary64.ofInt n).isFinite then stamped (ofStamp? n 0) else .defect .datetimeType
  | .float x =>
    match x.truncate?, x.floor? with
    | some whole, some below => stamped (ofStamp? below (microsOf (x.add (.ofInt (-whole)))))
    | _, _ => .defect .datetimeParsing
  | v =>
    match Form.numeral? v with
    | some (some cs) =>
      match parse? (String.ofList cs) with
      | some t => .ok t
      | none => .defect .datetimeFromDate
    | some none => .defect .datetimeFromDate
    | none => .defect .datetimeType

end Moment
end Plunder
