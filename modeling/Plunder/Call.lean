import Plunder.Moment
import Plunder.Fault

/-!
# Calls

An unsigned mutating call against the ledger, and a call with its signature. Both have a plain form,
a value of JSON, over which they are hashed and in which they travel.
-/

namespace Plunder

/-- The mutating methods of the ledger. -/
inductive Method where
  | recordHaul
  | advanceRound
  deriving DecidableEq

namespace Method

def text : Method → String
  | recordHaul => "recordHaul"
  | advanceRound => "advanceRound"

def ofText? (s : String) : Option Method := [recordHaul, advanceRound].find? (·.text == s)

end Method

mutual

/-- The plain form of a value: numbers that are not finite become null, octets the text that they
encode, and tuples lists. -/
def Value.plain : Value → Except Fault Value
  | .float x => .ok (if x.isFinite then .float x else .null)
  | .octets kind bs =>
    match kind, Text.ofUtf8? bs with
    | .window, _ => .error (.other .serialization "Unable to serialize unknown type")
    | _, some s => .ok (.text s)
    | _, none => .error (.other .serialization "invalid utf-8 sequence")
  | .list xs | .tuple xs => (Value.plainItems xs).map .list
  | .object fs => (Value.plainFields fs).map .object
  | v => .ok v

/-- The plain forms of the items of a list. -/
def Value.plainItems : List Value → Except Fault (List Value)
  | [] => .ok []
  | x :: xs => do
    let x ← x.plain
    let xs ← Value.plainItems xs
    .ok (x :: xs)

/-- The plain forms of the fields of an object. -/
def Value.plainFields : List (String × Value) → Except Fault (List (String × Value))
  | [] => .ok []
  | (k, v) :: fs => do
    let v ← v.plain
    let fs ← Value.plainFields fs
    .ok ((k, v) :: fs)

end

/-- An unsigned mutating call. -/
structure LedgerCall where
  contract : String
  method : String
  params : Fields
  signer : String
  nonce : String
  issuedAt : Moment

namespace LedgerCall

def title : String := "LedgerCall"

def methodName (v : Value) : Form.Checked String :=
  (Form.text v).andThen fun s =>
    if (Method.ofText? s).isSome then .ok s else .defect .stringPattern

/-- A call out of the fields of a record; `now` is when it was issued unless a field says so. -/
def ofFields (now : Moment) (fs : Fields) : Form.Checked LedgerCall :=
  mk <$> Form.fieldOr fs "contract" "" Form.text
    <*> Form.field fs "method" methodName
    <*> Form.fieldOr fs "params" [] Form.object
    <*> Form.field fs "signer" Form.text
    <*> Form.field fs "nonce" Form.text
    <*> Form.fieldOr fs "issued_at" now Moment.ofValue

def check (now : Moment) (fs : Fields) : Except Form.Invalid LedgerCall :=
  Form.finish title (ofFields now fs)

def plain (c : LedgerCall) : Except Fault Value := do
  let params ← Value.plainFields c.params
  return .object [("contract", .text c.contract), ("method", .text c.method),
    ("params", .object params), ("signer", .text c.signer), ("nonce", .text c.nonce),
    ("issued_at", .text c.issuedAt.text)]

end LedgerCall

/-- A call with a signature in hexadecimal digits. -/
structure SignedCall where
  call : LedgerCall
  signature : String

namespace SignedCall

def title : String := "SignedCall"

def ofFields (now : Moment) (fs : Fields) : Form.Checked SignedCall :=
  mk <$> Form.field fs "call" (Form.record (LedgerCall.ofFields now))
    <*> Form.field fs "signature" Form.text

def check (now : Moment) (fs : Fields) : Except Form.Invalid SignedCall :=
  Form.finish title (ofFields now fs)

def plain (s : SignedCall) : Except Fault Value := do
  let call ← s.call.plain
  return .object [("call", call), ("signature", .text s.signature)]

end SignedCall
end Plunder
