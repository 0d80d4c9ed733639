import Plunder.Round.Snapshot
import Plunder.Loot
import Plunder.Transaction
import Plunder.Call
import Plunder.Chart.Artifact

/-!
# Records

The records that the program exchanges, under the titles by which forms are refused. A record is
read out of fields, written as a value, and some of its fields may be assigned: those of a frozen
record may not.
-/

namespace Plunder

/-- A record of any kind. -/
inductive Record where
  | participant (p : Participant)
  | snapshot (s : RoundSnapshot)
  | haul (h : HaulSubmission)
  | loot (r : LootRecord)
  | chart (a : ChartArtifact)
  | call (c : LedgerCall)
  | signed (s : SignedCall)
  | handle (h : TransactionHandle)
  | receipt (r : TransactionReceipt)
  | result (r : TransactionResult)

namespace Record

/-- A record out of fields, by its title. -/
def check (now : Moment) (title : String) (fs : Fields) : Option (Except Form.Invalid Record) :=
  let readers : List (String × (Unit → Except Form.Invalid Record)) :=
    [(Participant.title, fun _ => (Participant.check fs).map participant),
      (RoundSnapshot.title, fun _ => (RoundSnapshot.check fs).map snapshot),
      (HaulSubmission.title, fun _ => (HaulSubmission.check fs).map haul),
      (LootRecord.title, fun _ => (LootRecord.check fs).map loot),
      (ChartArtifact.title, fun _ => (ChartArtifact.check fs).map chart),
      (LedgerCall.title, fun _ => (LedgerCall.check now fs).map call),
      (SignedCall.title, fun _ => (SignedCall.check now fs).map signed),
      (TransactionHandle.title, fun _ => (TransactionHandle.check fs).map handle),
      (TransactionReceipt.title, fun _ => (TransactionReceipt.check fs).map receipt),
      (TransactionResult.title, fun _ => (TransactionResult.check fs).map result)]
  (readers.find? (·.1 == title)).map fun r => r.2 ()

/-- The title of a record. -/
def title : Record → String
  | participant _ => Participant.title
  | snapshot _ => RoundSnapshot.title
  | haul _ => HaulSubmission.title
  | loot _ => LootRecord.title
  | chart _ => ChartArtifact.title
  | call _ => LedgerCall.title
  | signed _ => SignedCall.title
  | handle _ => TransactionHandle.title
  | receipt _ => TransactionReceipt.title
  | result _ => TransactionResult.title

/-- Whether the fields of a record are fixed once it is made. -/
def isFrozen : Record → Bool
  | participant _ | snapshot _ | chart _ => true
  | _ => false

/-- A record as a value. -/
def toValue : Record → Except Fault Value
  | participant p => .ok p.toValue
  | snapshot s => .ok s.toValue
  | haul h => .ok (.object [("participant", .text h.participant), ("amount", .nat h.amount)])
  | loot r => .ok (.object [("name", .text r.name), ("participant", .text r.participant),
      ("loot", .nat r.loot)])
  | chart a => .ok (.object [("data", .ofBytes a.data)])
  | call c => c.plain
  | signed s => s.plain
  | handle h => .ok (.object [("tx_hash", .text h.txHash), ("method", .text h.method)])
  | receipt r => .ok (.object r.toFields)
  | result r => .ok (.object [("kind", .text r.kind.text), ("status", .text r.status.text),
      ("reason", .text r.reason), ("tx_hash", match r.txHash with
        | some h => .text h
        | none => .null)])

def hasField (r : Record) (name : String) : Bool :=
  match r.toValue with
  | .ok (.object fs) => fs.any (·.1 == name)
  | _ => false

/-- The fault of assigning to a field of a record, if there is one. What is assigned is not
looked at. -/
def assignFault? (r : Record) (name : String) : Option Fault :=
  if r.isFrozen then some (.invalid (.frozen r.title name))
  else if r.hasField name then none
  else some (.badValue ("\"" ++ r.title ++ "\" object has no field \"" ++ name ++ "\""))

/-- Whether two records are the same. -/
def same (r s : Record) : Bool :=
  match r, s with
  | participant a, participant b => a == b
  | snapshot a, snapshot b => a == b
  | haul a, haul b => a == b
  | loot a, loot b => a == b
  | chart a, chart b => a == b
  | handle a, handle b => a == b
  | receipt a, receipt b => a == b
  | result a, result b => a == b
  | _, _ =>
    match r.toValue, s.toValue with
    | .ok a, .ok b =>
      r.title == s.title && (Json.canonical a).toOption == (Json.canonical b).toOption
    | _, _ => false

end Record
end Plunder
