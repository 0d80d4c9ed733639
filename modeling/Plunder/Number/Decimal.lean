import Plunder.Number.Binary64
import Plunder.Text.Digit

/-!
# Decimal fractions

Exact decimal fractions in lowest terms: a coefficient and a number of places, where the last
place is not zero.

* `Decimal.ofScaled`: `n / 10 ^ places`
* `Decimal.quotient`: a quotient with so many significant digits
* `Decimal.fixed`: all digits, with a point where there are places
* `Decimal.text`: the same, or scientific below `10 ^ (-6)`
-/

namespace Plunder

/-- The fraction `± coefficient / 10 ^ places`. -/
structure Decimal where
  negative : Bool
  coefficient : Nat
  places : Nat
  deriving DecidableEq

namespace Decimal

/-- Cuts trailing zeros of the coefficient, at most one for each place. -/
def cutZeros : Nat → Nat → Nat × Nat
  | c, 0 => (c, 0)
  | c, p + 1 => if c % 10 = 0 then cutZeros (c / 10) p else (c, p + 1)

/-- The fraction `n / 10 ^ places` in lowest terms. -/
def ofScaled (n : Int) (places : Nat) : Decimal :=
  let (c, p) := cutZeros n.natAbs places
  ⟨n < 0, c, p⟩

/-- How many decimal digits a natural number has. -/
def digitCount (n : Nat) : Nat := (Text.natDigits n).length

/-- A coefficient rounded to its first digits, a half going to the even neighbour; zeros take the
place of the digits behind them. -/
def roundTo (precision coefficient : Nat) : Nat :=
  let step := tenPow (digitCount coefficient - precision)
  Binary64.roundDiv coefficient step * step

/-- The quotient `n / d` with at most `precision` significant digits: exact where so many are
enough, rounded otherwise. -/
def quotient (precision : Nat) (n : Int) (d : Nat) : Decimal :=
  -- With so many places the quotient has more digits before the point than are asked for.
  let shift : Int := digitCount d + precision + 1 - digitCount n.natAbs
  let num := n.natAbs * tenPow shift.toNat
  let den := d * tenPow (-shift).toNat
  let c := num / den
  -- What is left over must show, or the digits behind the precision might pass for a half.
  let c := if num % den ≠ 0 ∧ c % 5 = 0 then c + 1 else c
  ofScaled (n.sign * (roundTo precision c * tenPow (-shift).toNat : Nat)) shift.toNat

/-- The sign in front of a text. -/
def signChars (d : Decimal) : List Char := if d.negative then ['-'] else []

/-- All digits of the fraction; a zero before the point where nothing else stands there. -/
def fixedChars (d : Decimal) : List Char :=
  let ds := Text.natDigits d.coefficient
  if d.places = 0 then d.signChars ++ ds
  else
    let ds := List.replicate (d.places + 1 - ds.length) '0' ++ ds
    d.signChars ++ ds.take (ds.length - d.places) ++ '.' :: ds.drop (ds.length - d.places)

/-- All digits of the fraction. -/
def fixed (d : Decimal) : String := String.ofList d.fixedChars

/-- The fraction with all its digits, or in scientific form where more than five zeros would follow
the point. -/
def text (d : Decimal) : String :=
  let ds := Text.natDigits d.coefficient
  if d.places ≤ ds.length + 5 then d.fixed
  else
    let tail := match ds with
      | [] => []
      | [c] => [c]
      | c :: rest => c :: '.' :: rest
    String.ofList (d.signChars ++ tail ++ ['E', '-'] ++ Text.natDigits (d.places + 1 - ds.length))

end Decimal
end Plunder
