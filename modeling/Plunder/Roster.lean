import Plunder.Participant
import Plunder.Fault

/-!
# Roster files

The roster of a node is a JSON list of participants in a file.
-/

namespace Plunder.Roster

/-- A text with every line ending written as a single line feed. -/
def unifyLines : List Char → List Char
  | '\r' :: '\n' :: rest => '\n' :: unifyLines rest
  | c :: rest => (if c = '\r' then '\n' else c) :: unifyLines rest
  | [] => []

def entry (v : Value) : Except Fault Participant :=
  match v with
  | .object fs => (Participant.check fs).mapError .invalid
  | v => .error (.badKind ("argument after ** must be a mapping, not " ++ v.kindName))

/-- The items of a list; the names of an object, the characters of a text. -/
def itemsOf : Value → Except Fault (List Value)
  | .list vs | .tuple vs => .ok vs
  | .object fs => .ok (fs.map fun f => .text f.1)
  | .text s => .ok (s.toList.map fun c => .text c.toString)
  | v => .error (.badKind ("'" ++ v.kindName ++ "' object is not iterable"))

/-- The roster in the text of a file; `none` stands for a file that is not there. -/
def read (path : String) (text : Option String) : Except Fault (List Participant) :=
  match text with
  | none => .error (.noFile path)
  | some s => do
    let v ← (Json.read (String.ofList (unifyLines s.toList))).mapError .json
    (← itemsOf v).mapM entry

end Plunder.Roster
