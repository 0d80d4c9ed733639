import Plunder.Form.Scalar

/-!
# Transactions

What becomes of a mutating action: the handle of an accepted transaction, the receipt once it is
final, and the outcome that the user is told.
-/

namespace Plunder

/-- Returned once a signed call has been accepted for inclusion. -/
structure TransactionHandle where
  txHash : String
  method : String
  deriving DecidableEq, Inhabited

namespace TransactionHandle

def title : String := "TransactionHandle"

def ofFields (fs : Fields) : Form.Checked TransactionHandle :=
  mk <$> Form.field fs "tx_hash" Form.text <*> Form.field fs "method" Form.text

def check (fs : Fields) : Except Form.Invalid TransactionHandle := Form.finish title (ofFields fs)

end TransactionHandle

/-- Whether a final transaction took effect. -/
inductive ReceiptStatus where
  | confirmed
  | reverted
  deriving DecidableEq, Inhabited

namespace ReceiptStatus

def text : ReceiptStatus → String
  | confirmed => "confirmed"
  | reverted => "reverted"

def ofText? (s : String) : Option ReceiptStatus := [confirmed, reverted].find? (·.text == s)

end ReceiptStatus

/-- The outcome of a final transaction. -/
structure TransactionReceipt where
  txHash : String
  status : ReceiptStatus
  block : Option Int
  reason : String
  deriving DecidableEq, Inhabited

namespace TransactionReceipt

/-- Whether the transaction took effect. -/
def confirmed (r : TransactionReceipt) : Bool := r.status == .confirmed

def title : String := "TransactionReceipt"

def ofFields (fs : Fields) : Form.Checked TransactionReceipt :=
  mk <$> Form.field fs "tx_hash" Form.text
    <*> Form.field fs "status" (Form.memberOf ReceiptStatus.ofText?)
    <*> Form.fieldOr fs "block" none Form.optionalWhole
    <*> Form.fieldOr fs "reason" "" Form.text

def check (fs : Fields) : Except Form.Invalid TransactionReceipt := Form.finish title (ofFields fs)

/-- The fields of a receipt as a record. -/
def toFields (r : TransactionReceipt) : Fields :=
  [("tx_hash", .text r.txHash), ("status", .text r.status.text),
    ("block", match r.block with
      | some n => .int n
      | none => .null),
    ("reason", .text r.reason)]

end TransactionReceipt

/-- The mutating actions. -/
inductive ActionKind where
  | haul
  | advance
  deriving DecidableEq, Inhabited

namespace ActionKind

def text : ActionKind → String
  | haul => "haul"
  | advance => "advance"

def ofText? (s : String) : Option ActionKind := [haul, advance].find? (·.text == s)

end ActionKind

/-- How far an action has come. -/
inductive TransactionStatus where
  | none
  | pending
  | succeeded
  | failed
  deriving DecidableEq, Inhabited

namespace TransactionStatus

def text : TransactionStatus → String
  | none => "none"
  | pending => "pending"
  | succeeded => "succeeded"
  | failed => "failed"

def ofText? (s : String) : Option TransactionStatus :=
  [none, pending, succeeded, failed].find? (·.text == s)

end TransactionStatus

/-- The outcome of an action. -/
structure TransactionResult where
  kind : ActionKind
  status : TransactionStatus
  reason : String
  txHash : Option String
  deriving DecidableEq, Inhabited

namespace TransactionResult

def idle (kind : ActionKind) : TransactionResult := ⟨kind, .none, "", none⟩

def pending (kind : ActionKind) : TransactionResult := ⟨kind, .pending, "", none⟩

/-- After the ledger has confirmed the transaction. -/
def success (kind : ActionKind) (txHash : String) : TransactionResult :=
  ⟨kind, .succeeded, "", some txHash⟩

def failure (kind : ActionKind) (reason : String) : TransactionResult :=
  ⟨kind, .failed, reason, none⟩

def succeeded (r : TransactionResult) : Bool := r.status == .succeeded

def failed (r : TransactionResult) : Bool := r.status == .failed

def title : String := "TransactionResult"

def ofFields (fs : Fields) : Form.Checked TransactionResult :=
  mk <$> Form.field fs "kind" (Form.memberOf ActionKind.ofText?)
    <*> Form.fieldOr fs "status" .none (Form.memberOf TransactionStatus.ofText?)
    <*> Form.fieldOr fs "reason" "" Form.text
    <*> Form.fieldOr fs "tx_hash" none Form.optionalText

def check (fs : Fields) : Except Form.Invalid TransactionResult := Form.finish title (ofFields fs)

end TransactionResult
end Plunder
