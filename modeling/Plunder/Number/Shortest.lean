import Plunder.Number.Binary64
import Plunder.Text.Digit

/-!
# The shortest text of a double

The fewest decimal digits that read back as the same double, the nearest to it where several do,
and the layout in which they are written: positional for exponents from `-4` to `15`, scientific
with a signed exponent of at least two digits elsewhere.
-/

namespace Plunder.Binary64

/-- The reals that round to a positive double: `2 ^ (exponent - 2)` times the numbers from `low`
to `high`, the ends included exactly when the mantissa is even; the double itself is at `mid`. -/
structure Neighbourhood where
  low : Nat
  mid : Nat
  high : Nat
  closed : Bool
  exponent : Int

/-- The reals that round to `m · 2 ^ e`. The gap below a power of two is half the gap above. -/
def neighbourhood (m : Nat) (e : Int) : Neighbourhood where
  low := if m = twoPow 52 ∧ -1074 < e then 4 * m - 1 else 4 * m - 2
  mid := 4 * m
  high := 4 * m + 2
  closed := m % 2 = 0
  exponent := e - 2

/-- `n · 2 ^ exponent · 10 ^ (-p)` as a ratio. -/
def inUnits (n : Nat) (exponent p : Int) : Nat × Nat :=
  let num := n * twoPow exponent.toNat * tenPow (-p).toNat
  let den := twoPow (-exponent).toNat * tenPow p.toNat
  (num, den)

/-- Whether the grid point `c · 10 ^ p` rounds to the double. -/
def Neighbourhood.holds (h : Neighbourhood) (p : Int) (c : Nat) : Bool :=
  let lo := inUnits h.low h.exponent p
  let hi := inUnits h.high h.exponent p
  if h.closed then lo.1 ≤ c * lo.2 && c * hi.2 ≤ hi.1 else lo.1 < c * lo.2 && c * hi.2 < hi.1

/-- The grid point `c · 10 ^ p` that rounds to the double and lies nearest to it, if one of its two
neighbours on the grid does; an even one wins a tie. -/
def Neighbourhood.nearest? (h : Neighbourhood) (p : Int) : Option Nat :=
  let v := inUnits h.mid h.exponent p
  let c := v.1 / v.2
  let r := v.1 % v.2
  match h.holds p c, h.holds p (c + 1) with
  | true, true =>
    if 2 * r < v.2 then some c
    else if v.2 < 2 * r then some (c + 1)
    else some (c + c % 2)
  | true, false => some c
  | false, true => some (c + 1)
  | false, false => none

/-- The least power of ten above the number, by its exponent. -/
def Neighbourhood.magnitude (h : Neighbourhood) : Int :=
  -- The factor is log 2 to the base ten, so that the exponent is one or two above the guess.
  let guess := ((Nat.log2 h.mid : Int) + h.exponent) * 30103 / 100000
  let exceeds := fun (k : Int) => let v := inUnits h.mid h.exponent k; v.1 < v.2
  ((List.range 4).map fun (i : Nat) => guess - 1 + (i : Int)).find? exceeds |>.getD (guess + 3)

/-- Cuts trailing zeros of a positive coefficient, at most `fuel` of them. -/
def cutZeros : Nat → Nat → Int → Nat × Int
  | 0, c, p => (c, p)
  | fuel + 1, c, p => if c ≠ 0 ∧ c % 10 = 0 then cutZeros fuel (c / 10) (p + 1) else (c, p)

/-- The coefficient and the decimal exponent of the shortest decimal that rounds to a positive
`m · 2 ^ e`; the coefficient does not end in zero. -/
def shortest (m : Nat) (e : Int) : Nat × Int :=
  let h := neighbourhood m e
  let k := h.magnitude
  let grids := (List.range 17).map fun (i : Nat) => k - 1 - (i : Int)
  match grids.findSome? fun p => (h.nearest? p).map fun c => (c, p) with
  | some (c, p) => cutZeros 20 c p
  | none => (0, 0)

/-- The exponent part: a sign and at least two digits. -/
def exponentText (e : Int) : List Char :=
  let ds := Text.natDigits e.natAbs
  'e' :: (if e < 0 then '-' else '+') :: (if ds.length < 2 then '0' :: ds else ds)

/-- Digits laid out around the decimal point, which stands after `point` of them. -/
def layout (ds : List Char) (point : Int) : List Char :=
  if -4 < point ∧ point ≤ 16 then
    if point ≤ 0 then '0' :: '.' :: List.replicate (-point).toNat '0' ++ ds
    else
      let whole := ds.take point.toNat
      let fraction := ds.drop point.toNat
      whole ++ List.replicate (point.toNat - ds.length) '0' ++ '.' ::
        (if fraction.isEmpty then ['0'] else fraction)
  else
    match ds with
    | [] => []
    | [d] => d :: exponentText (point - 1)
    | d :: rest => d :: '.' :: rest ++ exponentText (point - 1)

/-- The shortest text of a double. -/
def text (x : Binary64) : String :=
  match x.form with
  | .nan => "nan"
  | .infinity negative => if negative then "-inf" else "inf"
  | .finite negative m e =>
    let sign := if negative then ['-'] else []
    if m = 0 then String.ofList (sign ++ ['0', '.', '0'])
    else
      let (c, p) := shortest m e
      let ds := Text.natDigits c
      String.ofList (sign ++ layout ds (p + ds.length))

end Plunder.Binary64
