import Plunder.Participant

/-!
# Snapshots of the round

The number of the round together with the participants who have yet to report in it. The pair is
only ever replaced as a whole.
-/

namespace Plunder

/-- The round and who has yet to report in it. -/
structure RoundSnapshot where
  round : Nat
  outstanding : List Participant
  deriving DecidableEq

namespace RoundSnapshot

/-- Whether every participant has reported. -/
def complete (s : RoundSnapshot) : Bool := s.outstanding.isEmpty

def find (s : RoundSnapshot) (address : String) : Option Participant :=
  s.outstanding.find? (·.address == address)

def isOutstanding (s : RoundSnapshot) (address : String) : Bool :=
  s.outstanding.any (·.address == address)

def title : String := "RoundSnapshot"

def ofFields (fs : Fields) : Form.Checked RoundSnapshot :=
  mk <$> Form.field fs "round" Form.natural
    <*> Form.fieldOr fs "outstanding" [] (Form.listOf (Form.record Participant.ofFields))

def check (fs : Fields) : Except Form.Invalid RoundSnapshot := Form.finish title (ofFields fs)

def ofReadings (round : Value) (outstanding : List Participant) :
    Except Form.Invalid RoundSnapshot :=
  Form.finish title ((mk · outstanding) <$> (Form.natural round).within (.field "round"))

def toValue (s : RoundSnapshot) : Value :=
  .object [("round", .nat s.round), ("outstanding", .list (s.outstanding.map Participant.toValue))]

end RoundSnapshot
end Plunder
