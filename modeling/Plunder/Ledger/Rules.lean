import Plunder.Ledger.Basic
import Plunder.Journal

/-!
# The rules of the ledger

How a transaction changes the ledger. A transaction that breaks a rule is reverted: it changes
nothing and its receipt says why.

* `Ledger.judge`: what a call does, or the rule that it breaks
* `Ledger.apply`: a transaction with its receipt
* `Ledger.produceBlock`: every waiting transaction in order of acceptance
-/

namespace Plunder.Ledger

/-- A rule that a transaction breaks. -/
inductive Revert where
  | notAnOperator
  | amountNotWhole
  | amountNegative
  | notOnRoster
  | alreadyReported
  | notAllReported
  | unknownMethod (name : String)
  deriving DecidableEq

/-- What the receipt says of a broken rule. -/
def Revert.reason : Revert → String
  | notAnOperator => "signer is not an operator"
  | amountNotWhole => "amount is not an integer"
  | amountNegative => "amount is negative"
  | notOnRoster => "participant is not on the roster"
  | alreadyReported => "participant already reported this round"
  | notAllReported => "not all participants have reported"
  | unknownMethod name => "unknown method " ++ name

/-- What a transaction does when it breaks no rule. -/
inductive Effect where
  /-- The participant reports and is credited. -/
  | credit (address : String) (amount : Nat)
  /-- The next round begins. -/
  | advance
  deriving DecidableEq

def mayAct (l : Ledger) (signer : String) : Bool :=
  l.setup.operators.isEmpty || l.setup.operators.contains signer

/-- A parameter of a call; an empty text where it is absent. -/
def param (params : Fields) (name : String) : Value := (params.get? name).getD (.text "")

/-- The whole number that an amount stands for. A number beyond every whole number is a fault that
the ledger does not turn into a revert. -/
def amountOf (v : Value) : Except Fault (Except Revert Int) :=
  match v.toWhole with
  | .ok n => .ok (.ok n)
  | .error f =>
    match f.kind with
    | .overflow => .error f
    | _ => .ok (.error .amountNotWhole)

/-- The participant that a report is for. A value that cannot be looked up is a fault that the
ledger does not turn into a revert. -/
def participantOf (l : Ledger) (v : Value) : Except Fault (Except Revert String) :=
  if !v.isKey then .error (.badKind ("unhashable type: '" ++ v.kindName ++ "'"))
  else
    match v with
    | .text a => .ok (if (l.total? a).isSome then .ok a else .error .notOnRoster)
    | _ => .ok (.error .notOnRoster)

/-- What a report of a haul does. -/
def judgeHaul (l : Ledger) (params : Fields) : Except Fault (Except Revert Effect) := do
  match ← amountOf (param params "amount") with
  | .error r => return .error r
  | .ok n =>
    if n < 0 then return .error .amountNegative
    -- The amount is judged before the participant.
    match ← l.participantOf (param params "participant") with
    | .error r => return .error r
    | .ok a =>
      if l.reported.contains a then return .error .alreadyReported
      return .ok (.credit a n.toNat)

/-- What a call does, or the rule that it breaks. -/
def judge (l : Ledger) (c : LedgerCall) : Except Fault (Except Revert Effect) :=
  match Method.ofText? c.method with
  | none => .ok (.error (.unknownMethod c.method))
  | some m =>
    if !l.mayAct c.signer then .ok (.error .notAnOperator)
    else
      match m with
      | .recordHaul => l.judgeHaul c.params
      | .advanceRound =>
        .ok (if l.outstanding.isEmpty then .ok .advance else .error .notAllReported)

/-- Adds to what an address has gathered. -/
def creditTotals (address : String) (amount : Nat) (totals : List (String × Nat)) :
    List (String × Nat) :=
  totals.map fun t => if t.1 == address then (t.1, t.2 + amount) else t

/-- The ledger after an effect. -/
def effect (l : Ledger) : Effect → Ledger
  | .credit address amount =>
    { l with
      totals := creditTotals address amount l.totals
      reported := l.reported ++ [address] }
  | .advance => { l with round := l.round + 1, reported := [] }

def revertNote (c : LedgerCall) (r : Revert) : Note :=
  .under .info "memory_ledger" [("revert", .text c.method), ("reason", .text r.reason)]

/-- The receipt of a transaction in the block that is being made. -/
def receiptOf (l : Ledger) (txHash : String) (outcome : Option Revert) : TransactionReceipt :=
  match outcome with
  | none => ⟨txHash, .confirmed, some l.block, ""⟩
  | some r => ⟨txHash, .reverted, some l.block, r.reason⟩

def finalize (l : Ledger) (r : TransactionReceipt) : Ledger :=
  { l with receipts := l.receipts ++ [(r.txHash, r)] }

/-- A transaction applied, with what is noted. -/
def apply (l : Ledger) (tx : Queued) : Except Fault (Ledger × List Note) := do
  match ← l.judge tx.signed.call with
  | .ok e => return ((l.effect e).finalize (l.receiptOf tx.txHash none), [])
  | .error r => return (l.finalize (l.receiptOf tx.txHash (some r)), [revertNote tx.signed.call r])

/-- What comes of making a block. -/
structure Production where
  ledger : Ledger
  notes : List Note
  /-- The transactions that became final, in order. -/
  finals : List String
  /-- The fault that ended the block early. -/
  fault : Option Fault

/-- Applies transactions in order. A fault ends it, and what is behind is lost. -/
def applyAll (l : Ledger) : List Queued → Production
  | [] => ⟨l, [], [], none⟩
  | tx :: rest =>
    match l.apply tx with
    | .error f => ⟨l, [], [], some f⟩
    | .ok (l, notes) =>
      let p := l.applyAll rest
      { p with notes := notes ++ p.notes, finals := tx.txHash :: p.finals }

def blockNote (block txs : Nat) : Note :=
  .under .debug "memory_ledger" [("block", .nat block), ("txs", .nat txs)]

/-- Makes the next block out of every waiting transaction. -/
def produceBlock (l : Ledger) : Production :=
  let p := { l with block := l.block + 1, mempool := [] }.applyAll l.mempool
  -- A block without transactions counts, but is not noted.
  if p.fault.isSome || l.mempool.isEmpty then p
  else { p with notes := p.notes ++ [blockNote p.ledger.block l.mempool.length] }

end Plunder.Ledger
