import Plunder.Wire.Message
import Plunder.Journal

/-!
# The server

How the node answers a request. Reading the request either settles the reply at once or leaves a
question to the ledger; the answer of the ledger then makes the reply.

* `Wire.openRequest`: from the text of a request to a reply or a question
* `Wire.closeRequest`: from the ledger's answer to the reply
-/

namespace Plunder.Wire

/-- A request whose question the ledger is answering. -/
structure Pending where
  id : Value
  method : GatewayMethod

/-- What becomes of a request that was read. -/
inductive Opened where
  /-- The reply is settled. -/
  | reply (v : Value)
  /-- The ledger is asked. -/
  | ask (p : Pending) (c : GatewayCall)
  /-- The request cannot be answered. -/
  | broken (f : Fault)

def requestNote (level : Level) (method : Value) (status : String) (more : Fields) : Note :=
  .under level "ledger_rpc_request"
    ([("method", method), ("status", .text status)] ++ more)

def parseNote : Note :=
  .under .warning "ledger_rpc_request" [("status", .text "parse_error")]

def required (params : Fields) (name : String) : Except Fault Value :=
  match params.get? name with
  | some v => .ok v
  | none => .error (.missingKey name)

def mapping (what : String) : Value → Except Fault Fields
  | .object fs => .ok fs
  | v => .error (.badKind (what ++ " argument after ** must be a mapping, not " ++ v.kindName))

/-- The question that a method puts to the ledger. -/
def callOf (now : Moment) (params : Fields) : GatewayMethod → Except Fault GatewayCall
  | .round => .ok .round
  | .outstanding => .ok .outstanding
  | .lootTotals => .ok .lootTotals
  | .chart => .ok .chart
  | .submit => do
    let fs ← mapping SignedCall.title (← required params "transaction")
    let s ← (SignedCall.check now fs).mapError .invalid
    return .submit s
  | .finality => do
    let hash ← required params "tx_hash"
    -- The hash alone says which transaction is meant.
    let h ← (TransactionHandle.check [("tx_hash", hash), ("method", .text "")]).mapError .invalid
    return .finality h

/-- The reply to a question that failed, with what is noted. Faults that the protocol has no code for
are passed on. -/
def failureReply (p : Pending) (f : Fault) : Except Fault Value × List Note :=
  let method : Value := .text (methodName p.method)
  match f.kind with
  | .key | .validation =>
    (.ok (errorReply p.id invalidParams ("invalid params: " ++ f.message)),
      [requestNote .info method "invalid_params" []])
  | .gateway =>
    (.ok (errorReply p.id ledgerError f.message),
      [requestNote .info method "error" [("error", .text f.message)]])
  | _ => (.error f, [])

/-- The result that an answer of the ledger makes. -/
def resultOf : Answer → Except Fault Value
  | .round v | .chart v => .ok v
  | .outstanding ps =>
    .ok (.object [("addresses", .list (ps.map fun p => .text p.address)),
      ("names", .list (ps.map fun p => .text p.name))])
  | .lootTotals rs => do
    let items ← rs.mapM fun r => do
      let loot ← (Value.nat r.loot).inline
      return Value.object [("name", .text r.name), ("participant", .text r.participant),
        ("loot", .text loot)]
    return .list items
  | .handle h => .ok (.object [("tx_hash", .text h.txHash)])
  | .receipt r => .ok (.object r.toFields)

/-- The reply that the ledger's answer makes, with what is noted. -/
def closeRequest (p : Pending) (answer : Except Fault Answer) : Except Fault Value × List Note :=
  match answer.bind resultOf with
  | .error f => failureReply p f
  | .ok result =>
    (.ok (resultReply p.id result), [requestNote .debug (.text (methodName p.method)) "ok" []])

/-- The parameters of a request; a value that counts as nothing stands for none. -/
def paramsOf (v : Option Value) : Option Fields :=
  match v with
  | none => some []
  | some v => if v.isVoid then some [] else v.object?

/-- A request that names a method, with its parameters. -/
def openMethod (now : Moment) (l : Ledger) (id method : Value) (params : Fields) :
    Opened × List Note :=
  if !method.isKey then
    (.broken (.badKind ("unhashable type: '" ++ method.kindName ++ "'")), [])
  else
    match method.text?.bind methodNamed? with
    | none =>
      match method.inline with
      | .error f => (.broken f, [requestNote .info method "not_found" []])
      | .ok t =>
        (.reply (errorReply id methodNotFound ("method not found: " ++ t)),
          [requestNote .info method "not_found" []])
    | some m =>
      -- A client or a ledger without a contract goes with any.
      let contract := (params.get? "contract").getD (.text "")
      let known := contract.isVoid || l.setup.contractAddress.isEmpty
        || contract.text? == some l.setup.contractAddress
      if !known then
        match contract.inline with
        | .error f => (.broken f, [])
        | .ok t => (.reply (errorReply id invalidParams ("unknown contract " ++ t)), [])
      else
        let p : Pending := ⟨id, m⟩
        match callOf now params m with
        | .ok c => (.ask p c, [])
        | .error f =>
          match failureReply p f with
          | (.ok v, notes) => (.reply v, notes)
          | (.error f, notes) => (.broken f, notes)

/-- What becomes of the text of a request. -/
def openRequest (now : Moment) (l : Ledger) (body : String) : Opened × List Note :=
  match Json.read body with
  | .error _ => (.reply (errorReply .null parseError "parse error"), [parseNote])
  | .ok (.object fs) =>
    let id := (Fields.get? fs "id").getD .null
    let method := (Fields.get? fs "method").getD (.text "")
    match paramsOf (Fields.get? fs "params") with
    | none => (.reply (errorReply id invalidParams "params must be an object"), [])
    | some params => openMethod now l id method params
  | .ok _ => (.reply (errorReply .null invalidRequest "invalid request"), [])

/-- Where a node listens unless it is told otherwise. -/
def defaultTcpPort : Int := 8545

def startedNote (tcpPort : Int) : Note :=
  .under .info "ledger_rpc_server" [("status", .text "started"), ("port", .int tcpPort)]

def stoppedNote : Note := ⟨.info, .object [("ledger_rpc_server", .text "stopped")]⟩

/-- A reply as it travels; one that could not be made or written becomes a failure. -/
def httpReply (v : Except Fault Value) : HttpReply :=
  match v.bind replyText with
  | .ok text => ⟨okStatus, text⟩
  | .error _ => .failed

end Plunder.Wire
