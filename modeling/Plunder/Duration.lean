import Plunder.Value

/-!
# Durations

A number of seconds as it was given, whole or fractional: its text, and its length as an exact
fraction.
-/

namespace Plunder

/-- A number of seconds. -/
inductive Duration where
  | whole (seconds : Int)
  | real (seconds : Binary64)
  deriving DecidableEq, Inhabited

namespace Duration

def toValue : Duration → Value
  | whole n => .int n
  | real x => .float x

/-- The length in seconds; none where it is not finite. -/
def length? : Duration → Option Rat
  | whole n => some n
  | real x =>
    match x.form with
    | .finite negative m e =>
      let r : Rat :=
        if 0 ≤ e then (m * twoPow e.toNat : Nat) else (m : Rat) / (twoPow (-e).toNat : Nat)
      some (if negative then -r else r)
    | _ => none

/-- Whether the length is zero or less; a length that is no number is not. -/
def isOver (d : Duration) : Bool :=
  match d with
  | whole n => n ≤ 0
  | real x => !x.isNan && !Binary64.zero.lt x

end Duration
end Plunder
