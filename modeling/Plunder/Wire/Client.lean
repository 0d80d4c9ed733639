import Plunder.Wire.Server

/-!
# The client's side of the wire

How a client puts a question to a node and what it makes of the reply. A question that fails is not
put again.

* `Wire.requestOf`: the request that puts a question
* `Wire.readReply`: the result in a reply
* `Wire.answerOf`: the answer that a result stands for
-/

namespace Plunder.Wire

/-- A node as a client knows it. -/
structure Endpoint where
  url : String
  contract : String
  /-- How long the client waits for a connection, and for a reply except to a wait for finality. -/
  timeout : Duration

/-- The time that a client waits unless it is told otherwise. -/
def defaultTimeout : Duration := .real (.ofNat 30)

/-- The parameters of a question besides the contract. -/
def paramsOfCall : GatewayCall → Except Fault Fields
  | .submit s => do return [("transaction", ← s.plain)]
  | .finality h => .ok [("tx_hash", .text h.txHash)]
  | _ => .ok []

/-- The request that puts a question. -/
def requestOf (contract : String) (id : Nat) (c : GatewayCall) : Except Fault Value := do
  return request id c.method contract (← paramsOfCall c)

/-- How long the client waits for the reply to a question; a wait for finality has no end of its
own. -/
def readTimeout (e : Endpoint) : GatewayMethod → Option Duration
  | .finality => none
  | _ => some e.timeout

/-- A failure on the way, with what is noted. -/
def transportFault (m : GatewayMethod) (message : String) : Fault × Note :=
  (.gateway (methodName m ++ " failed: " ++ message) .null,
    .under .warning "ledger_rpc" [("method", .text (methodName m)), ("error", .text message)])

/-- The fault that an error in a reply stands for. -/
def faultOf : Value → Fault
  | .object fs =>
    .gateway ((((Fields.get? fs "message").getD (.text "unknown error")).inline?).getD "")
      ((Fields.get? fs "code").getD .null)
  | v => .noAttribute v.kindName "get"

/-- The result in a reply. -/
def readReply (m : GatewayMethod) (reply : HttpReply) : Except Fault Value :=
  if reply.status ≠ okStatus then
    .error (.gateway
      (methodName m ++ " failed: HTTP " ++ toString reply.status ++ " " ++ reply.text) .null)
  else
    match Json.readMarked reply.text with
    | .error _ => .error (.gateway (methodName m ++ " returned invalid JSON") .null)
    | .ok (.object fs) =>
      let error := (Fields.get? fs "error").getD .null
      -- An error that counts as nothing is none, whatever the result is.
      if !error.isVoid then .error (faultOf error)
      else
        match Fields.get? fs "result" with
        | some v => .ok v
        | none => .error (.gateway (methodName m ++ " returned no result") .null)
    | .ok v => .error (.noAttribute v.kindName "get")

/-- The parts of a value that has parts: the items of a list, the names of an object, the
characters of a text. -/
def partsOf? : Value → Option (List Value)
  | .list vs | .tuple vs => some vs
  | .object fs => some (fs.map fun f => .text f.1)
  | .text s => some (s.toList.map fun c => .text c.toString)
  | _ => none

def counted (v : Value) : Except Fault (List Value) :=
  match partsOf? v with
  | some vs => .ok vs
  | none => .error (.badKind ("object of type '" ++ v.kindName ++ "' has no len()"))

def iterated (v : Value) : Except Fault (List Value) :=
  match partsOf? v with
  | some vs => .ok vs
  | none => .error (.badKind ("'" ++ v.kindName ++ "' object is not iterable"))

/-- A field of a part of a result. -/
def fieldOf (name : String) : Value → Except Fault Value
  | .object fs => required fs name
  | .list _ => .error (.badKind "list indices must be integers or slices, not str")
  | .text _ => .error (.badKind "string indices must be integers, not 'str'")
  | v => .error (.badKind ("'" ++ v.kindName ++ "' object is not subscriptable"))

/-- The participants that a result lists as addresses and names. -/
def participantsOf : Value → Except Fault (List Participant)
  | .object fs => do
    let addresses ← counted ((Fields.get? fs "addresses").getD (.list []))
    let names ← counted ((Fields.get? fs "names").getD (.list []))
    if addresses.length ≠ names.length then
      throw (.gateway (methodName .outstanding ++ " returned " ++ toString addresses.length
        ++ " addresses but " ++ toString names.length ++ " names") .null)
    (addresses.zip names).mapM fun p =>
      (Participant.check [("address", p.1), ("name", p.2)]).mapError .invalid
  | v => .error (.noAttribute v.kindName "get")

/-- The loot of one participant in a result. -/
def lootOf (v : Value) : Except Fault LootRecord := do
  let name ← fieldOf "name" v
  let participant ← fieldOf "participant" v
  let loot ← (← fieldOf "loot" v).toWhole
  (LootRecord.check [("name", name), ("participant", participant), ("loot", .int loot)]).mapError
    .invalid

/-- The answer that a result stands for. -/
def answerOf (c : GatewayCall) (result : Value) : Except Fault Answer :=
  match c with
  | .round => do return .round (.int (← result.toWhole))
  | .outstanding => do return .outstanding (← participantsOf result)
  | .lootTotals => do return .lootTotals (← (← iterated result).mapM lootOf)
  | .chart => .ok (.chart result)
  | .submit s => do
    -- The node does not repeat the method; it is the one that was submitted.
    let hash ← fieldOf "tx_hash" result
    let h ← (TransactionHandle.check [("tx_hash", hash), ("method", .text s.call.method)]).mapError
      .invalid
    return .handle h
  | .finality _ => do
    let fs ← mapping TransactionReceipt.title result
    return .receipt (← (TransactionReceipt.check fs).mapError .invalid)

def answerIn (c : GatewayCall) (reply : HttpReply) : Except Fault Answer :=
  (readReply c.method reply).bind (answerOf c)

/-- What becomes of a request on its way. -/
inductive Delivery where
  | reply (r : HttpReply)
  /-- It was lost on the way there or back. -/
  | lost (message : String)
  /-- The address of the node is none. -/
  | misaddressed (message : String)

/-- What a client makes of a delivery, with what is noted. -/
def receive (c : GatewayCall) : Delivery → Except Fault Answer × List Note
  | .reply r => (answerIn c r, [])
  | .lost message =>
    let (f, note) := transportFault c.method message
    (.error f, [note])
  | .misaddressed message => (.error (.other .address message), [])

end Plunder.Wire
