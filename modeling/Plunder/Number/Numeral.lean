import Plunder.Text.Blank
import Plunder.Text.Digit
import Plunder.Number.Binary64

/-!
# Numerals

Whole and fractional numbers as people type them.

A whole number is an optional sign and digits of any script, single underscores between digits,
blanks around. A conversion between text and whole number is refused beyond `maxDigits` digits, in
either direction.

* `parseInt`: a whole number out of a text
* `intText?`: the text of a whole number
* `parseFloat?`: a double out of a text
-/

namespace Plunder.Numeral

open Plunder.Text

/-- The longest whole number that is converted from or to text. -/
def maxDigits : Nat := 4300

/-- Why a text is no whole number. -/
inductive Fault where
  /-- The text is not of the form of a whole number. -/
  | malformed
  /-- The number has this many digits, more than `maxDigits`. -/
  | tooLong (digits : Nat)
  deriving DecidableEq

/-- The decimal text of a whole number; `none` beyond `maxDigits` digits. -/
def intText? (n : Int) : Option String :=
  if (natDigits n.natAbs).length ≤ maxDigits then some (String.ofList (intDigits n)) else none

/-- The longest run of digits and underscores: the digit values, whether every underscore stands
between two digits, and what follows. `afterDigit` says whether a digit stands just before. -/
def scanDigits (value? : Char → Option Nat) (afterDigit : Bool) :
    List Char → List Nat × Bool × List Char
  | [] => ([], true, [])
  | c :: rest =>
    match value? c with
    | some d =>
      let (ds, ok, rest') := scanDigits value? true rest
      (d :: ds, ok, rest')
    | none =>
      if c = '_' then
        let followed := match rest with
          | e :: _ => (value? e).isSome
          | [] => false
        let (ds, ok, rest') := scanDigits value? false rest
        (ds, ok && afterDigit && followed, rest')
      else ([], true, c :: rest)

def splitSign : List Char → Bool × List Char
  | '-' :: rest => (true, rest)
  | '+' :: rest => (false, rest)
  | cs => (false, cs)

/-- A whole number with the given digits. The length is checked before what follows the digits. -/
def parseIntWith (value? : Char → Option Nat) (blank : Char → Bool) (cs : List Char) :
    Except Fault Int :=
  let (negative, cs) := splitSign (cs.dropWhile blank)
  let (ds, ok, rest) := scanDigits value? false cs
  if ds.isEmpty || !ok then .error .malformed
  else if maxDigits < ds.length then .error (.tooLong ds.length)
  else if rest.all blank then
    let n : Int := foldDigits ds
    .ok (if negative then -n else n)
  else .error .malformed

/-- A whole number out of a text. -/
def parseInt (s : String) : Except Fault Int := parseIntWith digitValue? isWhite s.toList

/-- White space of ASCII. -/
def isAsciiBlank (c : Char) : Bool := c == ' ' || (0x09 ≤ c.toNat && c.toNat ≤ 0x0D)

def parseIntOctets (bs : List UInt8) : Except Fault Int :=
  parseIntWith asciiDigit? isAsciiBlank (bs.map fun b => Char.ofNat b.toNat)

/-! ## Fractions -/

/-- The double nearest to `± digits · 10 ^ exponent`. -/
def decimalToBinary64 (negative : Bool) (coefficient : Nat) (exponent : Int) : Binary64 :=
  if coefficient = 0 then Binary64.ofMagnitude negative 0
  else
    let size : Int := (natDigits coefficient).length + exponent
    -- Beyond these sizes the result is known, and the powers of ten would only grow.
    if 400 < size then Binary64.infinity negative
    else if size < -400 then Binary64.ofMagnitude negative 0
    else
      Binary64.ofRatio negative (coefficient * tenPow exponent.toNat) (tenPow (-exponent).toNat)

/-- The exponent part of a fraction and what follows it: `e`, an optional sign, digits. -/
def scanExponent (value? : Char → Option Nat) (cs : List Char) : Option (Int × List Char) :=
  match cs with
  | [] => some (0, [])
  | c :: rest =>
    if c = 'e' ∨ c = 'E' then
      let (negative, rest) := splitSign rest
      let (ds, ok, rest) := scanDigits value? false rest
      if ds.isEmpty || !ok then none
      else
        let n : Int := foldDigits ds
        some (if negative then -n else n, rest)
    else some (0, c :: rest)

/-- A double out of an unsigned numeral: digits with at most one point and at least one digit, an
exponent part, or one of the words for infinity and not-a-number in any case. -/
def parseMagnitude? (value? : Char → Option Nat) (negative : Bool) (cs : List Char) :
    Option Binary64 :=
  let word := String.ofList (cs.map Char.toLower)
  if word = "inf" ∨ word = "infinity" then some (Binary64.infinity negative)
  else if word = "nan" then some (if negative then ⟨0xFFF8000000000000⟩ else Binary64.nan)
  else
    let (whole, ok, rest) := scanDigits value? false cs
    let (fraction, ok', rest) := match rest with
      | '.' :: rest => scanDigits value? false rest
      | _ => ([], true, rest)
    if !ok || !ok' || (whole.isEmpty && fraction.isEmpty) then none
    else
      match scanExponent value? rest with
      | some (e, []) =>
        some (decimalToBinary64 negative (foldDigits (whole ++ fraction)) (e - fraction.length))
      | _ => none

/-- A double out of a text: blanks around, an optional sign, digits of any script. -/
def parseFloat? (s : String) : Option Binary64 :=
  let (negative, cs) := splitSign (trimWhite s.toList)
  parseMagnitude? digitValue? negative cs

end Plunder.Numeral
