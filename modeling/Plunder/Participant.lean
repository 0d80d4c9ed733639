import Plunder.Form.Scalar

/-!
# Participants

A member of the roster: a stable address and the name that is shown.
-/

namespace Plunder

/-- A member of the roster. -/
structure Participant where
  address : String
  name : String
  deriving DecidableEq, Inhabited

namespace Participant

/-- Addresses up to this length are shown whole. -/
def shortLength : Nat := 10

/-- The address, cut to its first six and last four characters where it is long. -/
def shortAddress (p : Participant) : String :=
  let cs := p.address.toList
  if cs.length ≤ shortLength then p.address
  else String.ofList (cs.take 6 ++ ['.', '.', '.'] ++ cs.drop (cs.length - 4))

def label (p : Participant) : String := p.name ++ " (" ++ p.shortAddress ++ ")"

/-- A participant out of the fields of a record; the address must not be empty. -/
def ofFields (fs : Fields) : Form.Checked Participant :=
  mk <$> Form.field fs "address" Form.nonemptyText <*> Form.field fs "name" Form.text

def title : String := "Participant"

def check (fs : Fields) : Except Form.Invalid Participant := Form.finish title (ofFields fs)

def toValue (p : Participant) : Value :=
  .object [("address", .text p.address), ("name", .text p.name)]

end Participant
end Plunder
