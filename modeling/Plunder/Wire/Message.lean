import Plunder.Gateway

/-!
# Messages on the wire

The node and its clients speak JSON-RPC 2.0: a request names a method and carries its parameters; a
reply repeats the request's `id` and holds either a result or an error with a code.
-/

namespace Plunder.Wire

/-- The name of a method on the wire. -/
def methodName : GatewayMethod → String
  | .round => "ledger_round"
  | .outstanding => "ledger_outstanding"
  | .lootTotals => "ledger_lootTotals"
  | .chart => "ledger_generateChart"
  | .submit => "ledger_sendTransaction"
  | .finality => "ledger_awaitFinality"

def methods : List GatewayMethod := [.round, .outstanding, .lootTotals, .chart, .submit, .finality]

def methodNamed? (name : String) : Option GatewayMethod := methods.find? (methodName · == name)

/-- The codes of errors. -/
def parseError : Int := -32700
def invalidRequest : Int := -32600
def methodNotFound : Int := -32601
def invalidParams : Int := -32602
def ledgerError : Int := -32000

def version : String := "2.0"

def errorReply (id : Value) (code : Int) (message : String) : Value :=
  .object [("jsonrpc", .text version), ("id", id),
    ("error", .object [("code", .int code), ("message", .text message)])]

def resultReply (id result : Value) : Value :=
  .object [("jsonrpc", .text version), ("id", id), ("result", result)]

def request (id : Nat) (method : GatewayMethod) (contract : String) (params : Fields) : Value :=
  .object [("jsonrpc", .text version), ("id", .nat id), ("method", .text (methodName method)),
    ("params", .object (Fields.merge [("contract", .text contract)] params))]

/-- A reply as it travels: a status and a text. -/
structure HttpReply where
  status : Nat
  text : String

/-- The status of a reply that was made. -/
def okStatus : Nat := 200

def HttpReply.failed : HttpReply :=
  ⟨500, "500 Internal Server Error\n\nServer got itself in trouble"⟩

def replyText (v : Value) : Except Fault String :=
  match Json.write .spaced v with
  | .ok cs => .ok (String.ofList cs)
  | .error f => .error f.fault

end Plunder.Wire
