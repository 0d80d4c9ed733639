import Plunder.Rehearsal.Basic

/-!
# The gateway in a rehearsal

How a question gets from a client to the ledger and how its answer gets back: directly or as messages
on the wire, with what is done to the answers on the way. A call does its work first and is held back
afterwards; only the wait for a final transaction is held back before it begins.

* `Rehearsal.ask`, `Rehearsal.readReply`: the client's end
* `Rehearsal.openRequest`, `Rehearsal.closeRequest`: the node's end
* `Rehearsal.serve`: the ledger
* `Rehearsal.awaitFinality`: the wait for a final transaction, at most as long as the ledger allows
-/

namespace Plunder.Rehearsal

/-- A frame before its first turn does not begin when it is cancelled. -/
def whenBegun (r : Rehearsal) (o : Outcome) (f : Rehearsal × Next) : Rehearsal × Next :=
  match o with
  | .ok _ => f
  | .error _ => (r, .go [] o)

/-! ## The client's end -/

/-- A question goes to the ledger, directly or on the wire. -/
def ask (r : Rehearsal) (c : GatewayCall) : Rehearsal × Next :=
  match r.link with
  | .direct => (r, .go [.serve c] (.ok .nothing))
  | .wire contract =>
    match (Wire.paramsOfCall c).map (Wire.request (r.requests + 1) c.method contract) with
    | .error f => (r, .go [] (.error f))
    | .ok v =>
      -- A request that cannot be formed takes no number.
      let r := { r with requests := r.requests + 1 }
      match Wire.replyText v with
      | .error f => (r, .go [] (.error f))
      | .ok body => (r, .go [.request body, .reply c] (.ok .nothing))

/-- The message of the node, as it travels. -/
def httpReplyOf : Outcome → Wire.HttpReply
  | .ok (.message v) => Wire.httpReply (.ok v)
  | .ok _ => Wire.HttpReply.failed
  | .error f => Wire.httpReply (.error f)

def readReply (c : GatewayCall) (o : Outcome) : Outcome :=
  if o.isCancelled then o else (Wire.answerIn c (httpReplyOf o)).map .answer

/-! ## The node's end -/

/-- The text of a request has come. -/
def openRequest (r : Rehearsal) (body : String) : Rehearsal × Next :=
  let (opened, notes) := Wire.openRequest r.client.now r.ledger body
  let r := r.noting notes
  match opened with
  | .reply v => (r, .go [] (.ok (.message v)))
  | .ask p c => (r, .go [.serve c, .closing p] (.ok .nothing))
  | .broken f => (r, .go [] (.error f))

def answerIn : Outcome → Except Fault Answer
  | .ok (.answer a) => .ok a
  | .ok _ => .error (.badKind "no answer")
  | .error f => .error f

/-- The ledger's answer makes the reply. -/
def closeRequest (r : Rehearsal) (p : Wire.Pending) (o : Outcome) : Rehearsal × Next :=
  if o.isCancelled then (r, .go [] o)
  else
    let (reply, notes) := Wire.closeRequest p (answerIn o)
    (r.noting notes, .go [] (reply.map .message))

/-! ## The ledger -/

/-- The items of a list; none of what is no list. -/
def itemsIn : Value → List Value
  | .list vs | .tuple vs => vs
  | _ => []

def recordsIn {α : Type} (check : Fields → Except Form.Invalid α) (v : Value) :
    Except Fault (List α) :=
  (itemsIn v).mapM fun item => (check ((item.object?).getD [])).mapError .invalid

/-- The answer that a substitute stands for. -/
def substituteFor (c : GatewayCall) (v : Value) : Except Fault Answer :=
  match c with
  | .round => .ok (.round v)
  | .outstanding => (recordsIn Participant.check v).map .outstanding
  | .lootTotals => (recordsIn LootRecord.check v).map .lootTotals
  | .chart => .ok (.chart v)
  | .submit _ => .error (.noAttribute v.kindName "method")
  | .finality h =>
    let fs := Fields.merge [("tx_hash", .text h.txHash)] ((v.object?).getD [])
    ((TransactionReceipt.check fs).mapError .invalid).map .receipt

/-- An answer is given, or held back first. A fault is never held back. -/
def give (r : Rehearsal) (m : GatewayMethod) (o : Outcome) : Rehearsal × Next :=
  match o, (r.controls m).hold with
  | .ok _, some hold => (r, .block [.held hold o] (.signal (.gate hold.gate)))
  | _, _ => (r, .go [] o)

def submit (r : Rehearsal) (s : SignedCall) : Rehearsal × Except Fault TransactionHandle :=
  let sub := r.ledger.submit s
  ({ r with ledger := sub.ledger }.noting sub.notes |>.announce sub.finals, sub.outcome)

/-- The ledger does what it is asked. -/
def work (r : Rehearsal) (c : GatewayCall) : Rehearsal × Next :=
  match c with
  | .round => r.give .round (.ok (.answer (.round (.int r.ledger.round))))
  | .outstanding => r.give .outstanding (.ok (.answer (.outstanding r.ledger.outstanding)))
  | .lootTotals => r.give .lootTotals (.ok (.answer (.lootTotals r.ledger.lootTotals)))
  | .chart => (r, .go [.serve .lootTotals, .drawing] (.ok .nothing))
  | .submit s =>
    let (r, handle) := r.submit s
    r.give .submit (handle.map fun h => .answer (.handle h))
  | .finality h =>
    match (r.controls .finality).hold with
    | some hold => (r, .block [.deferred hold h] (.signal (.gate hold.gate)))
    | none => (r, .go [.finality h] (.ok .nothing))

/-- The ledger is asked. A fault that was set up wins over a substitute. -/
def serve (r : Rehearsal) (c : GatewayCall) : Rehearsal × Next :=
  let r := { r with calls := r.calls ++ [c.method] }
  let control := r.controls c.method
  match control.fault, control.substitute with
  | some f, _ => (r, .go [] (.error f))
  | none, some v => r.give c.method ((substituteFor c v).map .answer)
  | none, none => r.work c

/-- The ledger draws the totals that it has read. -/
def draw (r : Rehearsal) (o : Outcome) : Rehearsal × Next :=
  match o with
  | .ok (.answer (.lootTotals records)) =>
    r.give .chart ((r.ledger.chartOf records).map fun t => .answer (.chart (.text t)))
  | .ok _ => (r, .go [] (.error (.badKind "no totals")))
  | .error _ => (r, .go [] o)

/-- Whether a held call goes on waiting although it was cancelled. -/
def holdsOn (r : Rehearsal) (hold : Hold) (o : Outcome) : Bool :=
  o.isCancelled && hold.stubborn && !r.raised (.gate hold.gate)

/-- A held call goes on: it is cancelled, or its gate is open. A stubborn one is not cancelled. -/
def afterHold (r : Rehearsal) (hold : Hold) (o : Outcome) (same : Frame) (next : Rehearsal × Next) :
    Rehearsal × Next :=
  if r.holdsOn hold o then (r, .block [same] (.signal (.gate hold.gate)))
  else if o.isCancelled && !hold.stubborn then (r, .go [] o)
  else next

/-! ## Waiting for a final transaction -/

def receiptOf (r : Rehearsal) (h : TransactionHandle) : Outcome :=
  match r.ledger.receipt? h.txHash with
  | some receipt => .ok (.answer (.receipt receipt))
  | none => .error r.ledger.finalityTimeout

def giveUp (r : Rehearsal) (probe : Nat) (frame : Frame) : Rehearsal × Next :=
  ({ r with crew := r.crew.cancel probe }, .block [frame] (.ending probe none))

/-- The wait for a final transaction begins: a probe looks out for it until the deadline. -/
def awaitFinality (r : Rehearsal) (h : TransactionHandle) : Rehearsal × Next :=
  if !r.ledger.known.contains h.txHash then
    (r, .go [] (.error (Ledger.unknownTransaction h.txHash)))
  else
    let (r, probe) := r.spawn [.heed (.final h.txHash)]
    let timeout := r.ledger.setup.finalityTimeout
    if timeout.isOver then r.giveUp probe (.overdue h probe)
    else (r, .block [.probing h probe] (.ending probe (timeout.length?.map (r.crew.now + ·))))

/-- The probe has ended, or the deadline is over, or the wait was cancelled. -/
def afterProbe (r : Rehearsal) (h : TransactionHandle) (probe : Nat) (o : Outcome) :
    Rehearsal × Next :=
  match r.crew.outcome? probe with
  | some (.ok _) => (r, .go [] (r.receiptOf h))
  | some (.error f) => (r, .go [] (.error f))
  | none => r.giveUp probe (if o.isCancelled then .withdrawn else .overdue h probe)

/-- The probe has given up after the deadline, unless it saw the signal after all. -/
def afterDeadline (r : Rehearsal) (h : TransactionHandle) (probe : Nat) (o : Outcome) :
    Rehearsal × Next :=
  if o.isCancelled then (r, .go [] o)
  else
    match r.crew.outcome? probe with
    | some (.ok _) => (r, .go [] (r.receiptOf h))
    | _ => (r, .go [] (.error r.ledger.finalityTimeout))

/-- A probe looks for its signal. -/
def heed (r : Rehearsal) (s : Signal) : Rehearsal × Next :=
  if r.raised s then (r, .go [] (.ok .nothing)) else (r, .block [.heeded] (.signal s))

end Plunder.Rehearsal
