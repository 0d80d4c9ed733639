/-!
# Powers

The powers of two and of ten that numbers are scaled by.
-/

namespace Plunder

def twoPow (n : Nat) : Nat := Nat.pow 2 n

def tenPow (n : Nat) : Nat := Nat.pow 10 n

end Plunder
