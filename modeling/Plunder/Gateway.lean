import Plunder.Ledger.Submission

/-!
# The gateway

What a client asks of the ledger and what it gets: four readings, the submission of a signed call,
and the wait until a transaction is final.
-/

namespace Plunder

/-- What a client can ask of the ledger. -/
inductive GatewayMethod where
  | round
  | outstanding
  | lootTotals
  | chart
  | submit
  | finality
  deriving DecidableEq, Inhabited

/-- A question to the ledger. -/
inductive GatewayCall where
  | round
  | outstanding
  | lootTotals
  | chart
  | submit (signed : SignedCall)
  | finality (handle : TransactionHandle)

/-- What is asked. -/
def GatewayCall.method : GatewayCall → GatewayMethod
  | round => .round
  | outstanding => .outstanding
  | lootTotals => .lootTotals
  | chart => .chart
  | submit _ => .submit
  | finality _ => .finality

/-- An answer of the ledger. The round and the chart are passed on as they came. -/
inductive Answer where
  | round (v : Value)
  | outstanding (ps : List Participant)
  | lootTotals (rs : List LootRecord)
  | chart (v : Value)
  | handle (h : TransactionHandle)
  | receipt (r : TransactionReceipt)
  deriving Inhabited

namespace Ledger

/-- The answer to a reading, which leaves the ledger as it is. -/
def reading? (l : Ledger) : GatewayCall → Option (Except Fault Answer)
  | .round => some (.ok (.round (.int l.round)))
  | .outstanding => some (.ok (.outstanding l.outstanding))
  | .lootTotals => some (.ok (.lootTotals l.lootTotals))
  | .chart => some (l.chart.map fun s => .chart (.text s))
  | .submit _ | .finality _ => none

end Ledger
end Plunder
