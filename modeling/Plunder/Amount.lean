import Plunder.Fault
import Plunder.Number.Decimal

/-!
# Amounts

The ledger keeps every amount as a whole number of base units, `10 ^ 18` to the unit. Users type and
read plain decimals.

* `Amount.parse`: base units out of a decimal text, in exact arithmetic
* `Amount.ofBase`: the decimal of a number of base units
* `Amount.format`: that decimal without trailing zeros
-/

namespace Plunder.Amount

open Plunder.Text

def places : Nat := 18

/-- How many base units make a unit. -/
def unit : Nat := tenPow places

def digitsValue (cs : List Char) : Nat := foldDigits (cs.filterMap digitValue?)

/-- The base units of `whole.fraction`; the text is quoted in faults. -/
def combine (quoted : String) (whole fraction : List Char) : Except AmountFault Nat :=
  if places < fraction.length then .error (.tooManyPlaces quoted)
  else if Numeral.maxDigits < whole.length then .error (.tooLong whole.length)
  else
    .ok (digitsValue whole * unit + digitsValue fraction * tenPow (places - fraction.length))

/-- Base units out of a text: digits of any script with at most one point among them or at either
end, at least one digit, at most `places` of them after the point, blanks around. -/
def parse (s : String) : Except AmountFault Nat :=
  let t := trimChars s.toList
  let quoted := Quoted.ofText s
  let whole := t.takeWhile isDecimalDigit
  match t.dropWhile isDecimalDigit with
  | [] => if whole.isEmpty then .error .required else combine quoted whole []
  | '.' :: fraction =>
    if fraction.all isDecimalDigit && !(whole.isEmpty && fraction.isEmpty) then
      combine quoted whole fraction
    else .error (.malformed quoted)
  | _ => .error (.malformed quoted)

/-- Base units out of what a form holds: a text, or a value that counts as nothing or holds nothing
but blanks. -/
def parseValue (v : Value) : Except Fault Nat :=
  match v with
  | .text s => (parse s).mapError .amount
  | v =>
    if v.isVoid then .error (.amount .required)
    else
      match v with
      | .octets .fixed bs | .octets .buffer bs =>
        if bs.all fun b => Numeral.isAsciiBlank (Char.ofNat b.toNat) then .error (.amount .required)
        else .error (.badKind "cannot use a string pattern on a bytes-like object")
      | v => .error (.noAttribute v.kindName "strip")

/-- The significant digits that are reckoned with at least. -/
def leastPrecision : Nat := 28

/-- The decimal of a number of base units, reckoned with as many digits as the number needs; refused
beyond the digits that are converted to text. -/
def ofBase (n : Int) : Except Fault Decimal :=
  match Numeral.intText? n.natAbs with
  | some digits => .ok (Decimal.quotient (max leastPrecision (digits.length + places)) n unit)
  | none => .error .numberTooLong

/-- A text with a point without the zeros at its end, and without the point if nothing follows. -/
def cutFraction (cs : List Char) : List Char :=
  if cs.contains '.' then ((cs.reverse.dropWhile (· == '0')).dropWhile (· == '.')).reverse else cs

/-- A decimal as users read it. -/
def shown (d : Decimal) : String :=
  let text := cutFraction d.fixedChars
  if text.isEmpty then "0" else String.ofList text

/-- A number of base units as a decimal text. -/
def format (n : Int) : Except Fault String := (ofBase n).map shown

end Plunder.Amount
