import Plunder.Form.Scalar

/-!
# Loot

What a participant has gathered over all rounds, and a haul that is about to be reported, both in
base units.
-/

namespace Plunder

/-- The loot of one participant over all rounds. -/
structure LootRecord where
  name : String
  participant : String
  loot : Nat
  deriving DecidableEq, Inhabited

namespace LootRecord

def title : String := "LootRecord"

def ofFields (fs : Fields) : Form.Checked LootRecord :=
  mk <$> Form.field fs "name" Form.text <*> Form.field fs "participant" Form.text
    <*> Form.field fs "loot" Form.natural

def check (fs : Fields) : Except Form.Invalid LootRecord := Form.finish title (ofFields fs)

end LootRecord

/-- A haul that is about to be reported. -/
structure HaulSubmission where
  participant : String
  amount : Nat
  deriving DecidableEq

namespace HaulSubmission

def title : String := "HaulSubmission"

def ofFields (fs : Fields) : Form.Checked HaulSubmission :=
  mk <$> Form.field fs "participant" Form.nonemptyText <*> Form.field fs "amount" Form.natural

def check (fs : Fields) : Except Form.Invalid HaulSubmission := Form.finish title (ofFields fs)

/-- A haul of a known amount; the participant's address must not be empty. -/
def ofParts (participant : String) (amount : Nat) : Except Form.Invalid HaulSubmission :=
  check [("participant", .text participant), ("amount", .nat amount)]

end HaulSubmission
end Plunder
