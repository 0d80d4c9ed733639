import Plunder.Number.Power

/-!
# Double-precision numbers

IEEE-754 doubles as their sixty-four bits, with exact arithmetic behind every operation: a double
is decoded to `mantissa · 2 ^ exponent`, the result is formed as a ratio of natural numbers and
rounded once, to nearest with ties to the even neighbour.

* `Binary64.form`: what the bits denote
* `Binary64.ofRatio`: the double nearest to a ratio
* `add`, `mul`, `divNat`, `lt`: arithmetic and order
* `truncate?`, `floor?`, `roundEven`, `roundUp`: whole numbers out of a double
-/

namespace Plunder

/-- A double, by its bits. -/
structure Binary64 where
  bits : UInt64
  deriving DecidableEq, Inhabited

namespace Binary64

/-- What the bits of a double denote. -/
inductive Form where
  /-- Not a number. -/
  | nan
  /-- An infinity. -/
  | infinity (negative : Bool)
  /-- The number `± mantissa · 2 ^ exponent`. -/
  | finite (negative : Bool) (mantissa : Nat) (exponent : Int)
  deriving DecidableEq

/-- The number that a double denotes. -/
def form (x : Binary64) : Form :=
  let n := x.bits.toNat
  let negative := n ≥ twoPow 63
  let e : Nat := n / twoPow 52 % twoPow 11
  let f := n % twoPow 52
  if e = 2047 then if f = 0 then .infinity negative else .nan
  else if e = 0 then .finite negative f (-1074)
  else .finite negative (twoPow 52 + f) ((e : Int) - 1075)

/-- The double with the given sign and magnitude bits. -/
def ofMagnitude (negative : Bool) (magnitude : Nat) : Binary64 :=
  ⟨UInt64.ofNat ((if negative then twoPow 63 else 0) + magnitude)⟩

def infinityBits : Nat := 2047 * twoPow 52

def infinity (negative : Bool) : Binary64 := ofMagnitude negative infinityBits

def nan : Binary64 := ⟨0x7FF8000000000000⟩

def zero : Binary64 := ⟨0⟩

/-- `num / den` rounded to a whole number, a tie going to the even neighbour. -/
def roundDiv (num den : Nat) : Nat :=
  let t := num / den
  let r := num % den
  if 2 * r < den then t else if den < 2 * r then t + 1 else t + t % 2

/-- `num / den` scaled by `2 ^ (-q)` as a ratio. -/
def scaled (num den : Nat) (q : Int) : Nat × Nat :=
  if 0 ≤ q then (num, den * twoPow q.toNat) else (num * twoPow (-q).toNat, den)

/-- The double nearest to `± num / den`; infinite where the magnitude is too large. -/
def ofRatio (negative : Bool) (num den : Nat) : Binary64 :=
  if num = 0 ∨ den = 0 then ofMagnitude negative 0
  else
    -- The ratio lies between 2 ^ (k - 1) and 2 ^ (k + 1), so that at the exponent k - 53 it has
    -- fifty-three or fifty-four binary digits before the point.
    let k : Int := (Nat.log2 num : Int) - Nat.log2 den
    let q₀ := max (k - 53) (-1074)
    let s := scaled num den q₀
    let q := if twoPow 53 ≤ s.1 / s.2 then q₀ + 1 else q₀
    let s := scaled num den q
    let magnitude := ((q + 1074).toNat * twoPow 52) + roundDiv s.1 s.2
    if infinityBits ≤ magnitude then infinity negative else ofMagnitude negative magnitude

def ofNat (n : Nat) : Binary64 := ofRatio false n 1

def ofInt (n : Int) : Binary64 := ofRatio (n < 0) n.natAbs 1

def isFinite (x : Binary64) : Bool :=
  match x.form with
  | .finite .. => true
  | _ => false

def isNan (x : Binary64) : Bool := x.form == .nan

/-- `± m · 2 ^ e` rounded to a double. -/
def ofScaled (negative : Bool) (m : Nat) (e : Int) : Binary64 :=
  if 0 ≤ e then ofRatio negative (m * twoPow e.toNat) 1 else ofRatio negative m (twoPow (-e).toNat)

/-- The signed mantissa of a finite number brought to the exponent `e`, which must not exceed its
own. -/
def atExponent (negative : Bool) (m : Nat) (e₀ e : Int) : Int :=
  let v : Int := m * twoPow (e₀ - e).toNat
  if negative then -v else v

/-- The sum, rounded once. -/
def add (x y : Binary64) : Binary64 :=
  match x.form, y.form with
  | .nan, _ | _, .nan => nan
  | .infinity a, .infinity b => if a = b then infinity a else nan
  | .infinity a, _ => infinity a
  | _, .infinity b => infinity b
  | .finite a m e, .finite b n f =>
    let g := min e f
    let s := atExponent a m e g + atExponent b n f g
    if s = 0 then ofMagnitude (a && b) 0 else ofScaled (s < 0) s.natAbs g

/-- The product, rounded once. -/
def mul (x y : Binary64) : Binary64 :=
  match x.form, y.form with
  | .nan, _ | _, .nan => nan
  | .infinity a, .infinity b => infinity (a != b)
  | .infinity a, .finite b n _ => if n = 0 then nan else infinity (a != b)
  | .finite a m _, .infinity b => if m = 0 then nan else infinity (a != b)
  | .finite a m e, .finite b n f => ofScaled (a != b) (m * n) (e + f)

/-- A number whose order is the order of the doubles; both zeros have the same. -/
def orderKey (x : Binary64) : Int :=
  let n := x.bits.toNat
  if n ≥ twoPow 63 then -((n - twoPow 63 : Nat) : Int) else n

/-- Whether `x < y`; never with a NaN. -/
def lt (x y : Binary64) : Bool := !x.isNan && !y.isNan && x.orderKey < y.orderKey

/-- Whether both denote the same number. -/
def same (x y : Binary64) : Bool := !x.isNan && !y.isNan && x.orderKey == y.orderKey

/-- The whole number next to a finite double towards zero. -/
def truncate? (x : Binary64) : Option Int :=
  match x.form with
  | .finite negative m e =>
    let n := if 0 ≤ e then m * twoPow e.toNat else m / twoPow (-e).toNat
    some (if negative then -n else n)
  | _ => none

/-- The greatest whole number that does not exceed a finite double. -/
def floor? (x : Binary64) : Option Int :=
  match x.form with
  | .finite negative m e =>
    let v : Int := if negative then -(m : Int) else m
    some (if 0 ≤ e then v * twoPow e.toNat else v.fdiv (twoPow (-e).toNat))
  | _ => none

/-- Whether a finite double is a whole number. -/
def isWhole (x : Binary64) : Bool :=
  match x.form with
  | .finite _ m e => 0 ≤ e || m % twoPow (-e).toNat == 0
  | _ => false

/-- The quotient by a whole number, rounded once. -/
def divNat (x : Binary64) (d : Nat) : Binary64 :=
  match x.form with
  | .finite negative m e =>
    if 0 ≤ e then ofRatio negative (m * twoPow e.toNat) d
    else ofRatio negative m (d * twoPow (-e).toNat)
  | _ => x

/-- The whole number nearest to the magnitude of a finite double, a tie going away from zero. -/
def roundUp (x : Binary64) : Nat :=
  match x.form with
  | .finite _ m e =>
    if 0 ≤ e then m * twoPow e.toNat else (2 * m + twoPow (-e).toNat) / (2 * twoPow (-e).toNat)
  | _ => 0

/-- The nearest whole number of a finite double, a tie going to the even neighbour. -/
def roundEven (x : Binary64) : Int :=
  match x.form with
  | .finite negative m e =>
    let n := if 0 ≤ e then m * twoPow e.toNat else roundDiv m (twoPow (-e).toNat)
    if negative then -n else n
  | _ => 0

end Binary64
end Plunder
