import Plunder.Ledger.Rules

/-!
# Submitting transactions

How a signed call enters the ledger: it must be meant for this ledger, carry a valid signature and
be new. Accepted calls wait for the next block, or get one at once where blocks take no time.
-/

namespace Plunder.Ledger

/-- Why a signed call is not accepted. -/
inductive Rejection where
  | wrongContract (contract : String)
  | badSignature
  | replayed
  deriving DecidableEq

def Rejection.message : Rejection → String
  | wrongContract c => "transaction is for contract " ++ c
  | badSignature => "invalid signature"
  | replayed => "transaction already submitted"

def Rejection.fault (r : Rejection) : Fault := .gateway r.message .null

def isForeign (l : Ledger) (contract : String) : Bool :=
  !l.setup.contractAddress.isEmpty && !contract.isEmpty && contract != l.setup.contractAddress

/-- The hash under which a signed call is accepted. -/
def accept (l : Ledger) (s : SignedCall) : Except Fault String := do
  if l.isForeign s.call.contract then throw (Rejection.wrongContract s.call.contract).fault
  if l.setup.verifySignatures then
    if !(← s.verify) then throw Rejection.badSignature.fault
  let hash ← s.txHash
  if l.known.contains hash then throw Rejection.replayed.fault
  return hash

/-- The ledger with a call in front of the next block. -/
def enqueue (l : Ledger) (hash : String) (s : SignedCall) : Ledger :=
  { l with mempool := l.mempool ++ [⟨hash, s⟩], known := l.known ++ [hash] }

/-- How much of a hash the journal shows. -/
def notedHash : Nat := 18

def queuedNote (hash : String) (s : SignedCall) : Note :=
  .under .debug "memory_ledger" [("queued", .text s.call.method),
    ("tx_hash", .text (String.ofList (hash.toList.take notedHash)))]

/-- What comes of submitting a call. -/
structure Submission where
  ledger : Ledger
  notes : List Note
  /-- The transactions that became final. -/
  finals : List String
  outcome : Except Fault TransactionHandle

/-- Submits a signed call. -/
def submit (l : Ledger) (s : SignedCall) : Submission :=
  match l.accept s with
  | .error f => ⟨l, [], [], .error f⟩
  | .ok hash =>
    let queued := l.enqueue hash s
    let note := queuedNote hash s
    match l.setup.blockTime with
    -- The transaction waits for the time of the next block.
    | some _ => ⟨queued, [note], [], .ok ⟨hash, s.call.method⟩⟩
    | none =>
      let p := queued.produceBlock
      ⟨p.ledger, note :: p.notes, p.finals,
        match p.fault with
        | some f => .error f
        | none => .ok ⟨hash, s.call.method⟩⟩

def unknownTransaction (hash : String) : Fault := .gateway ("unknown transaction " ++ hash) .null

/-- The fault of a wait that took too long. -/
def finalityTimeout (l : Ledger) : Fault :=
  .gateway ("finality timeout after " ++ (l.setup.finalityTimeout.toValue.show?.getD "") ++ "s")
    .null

end Plunder.Ledger
