import Plunder.Participant
import Plunder.Loot
import Plunder.Transaction
import Plunder.Duration
import Plunder.Call.Signing

/-!
# The ledger

The authoritative state of the rounds: who is on the roster, who has reported in this round, what
everyone has gathered, and the transactions that brought it about.

* `Ledger.Setup`: what is fixed when a ledger is founded
* `Ledger.found`: a new ledger
* `Ledger.outstanding`, `Ledger.lootTotals`, `Ledger.chart`: what can be read from it
-/

namespace Plunder

/-- What is fixed when a ledger is founded. -/
structure Ledger.Setup where
  roster : List Participant
  /-- The addresses that may sign; everyone may if there are none. -/
  operators : List String
  contractAddress : String
  /-- The time between two blocks; without it every transaction gets a block of its own at once. -/
  blockTime : Option Duration
  finalityTimeout : Duration
  verifySignatures : Bool
  /-- Draws the loot totals. -/
  render : List LootRecord → Except Fault Bytes

/-- A transaction that waits for a block. -/
structure Ledger.Queued where
  txHash : String
  signed : SignedCall

/-- The state of the ledger. -/
structure Ledger where
  setup : Ledger.Setup
  round : Int
  block : Nat
  /-- The addresses that have reported in this round. -/
  reported : List String
  /-- What every address of the roster has gathered. -/
  totals : List (String × Nat)
  /-- The accepted transactions that wait for a block, in order of acceptance. -/
  mempool : List Ledger.Queued
  /-- The hashes of all accepted transactions, in order of acceptance. -/
  known : List String
  /-- The receipts of all final transactions, in order. -/
  receipts : List (String × TransactionReceipt)

namespace Ledger

def Setup.addresses (s : Setup) : List String := s.roster.map (·.address)

/-- Whether no item stands twice in a list. -/
def distinct : List String → Bool
  | [] => true
  | a :: rest => !rest.contains a && distinct rest

/-- A new ledger; the addresses of its roster must be distinct. -/
def found (s : Setup) : Except Fault Ledger :=
  if distinct s.addresses then
    .ok ⟨s, 0, 0, [], s.addresses.map (·, 0), [], [], []⟩
  else .error (.badValue "roster contains duplicate addresses")

/-- The participants who have not reported in this round, in the order of the roster. -/
def outstanding (l : Ledger) : List Participant :=
  l.setup.roster.filter fun p => !l.reported.contains p.address

/-- What an address has gathered; none if it is not on the roster. -/
def total? (l : Ledger) (address : String) : Option Nat :=
  (l.totals.find? (·.1 == address)).map (·.2)

/-- The loot of every participant, in the order of the roster. -/
def lootTotals (l : Ledger) : List LootRecord :=
  l.setup.roster.map fun p => ⟨p.name, p.address, (l.total? p.address).getD 0⟩

/-- A drawing as hexadecimal digits after their mark. -/
def chartText (picture : Bytes) : String := "0x" ++ Text.Hex.encode picture

/-- The chart of some totals. -/
def chartOf (l : Ledger) (records : List LootRecord) : Except Fault String :=
  (l.setup.render records).map chartText

def chart (l : Ledger) : Except Fault String := l.chartOf l.lootTotals

/-- The receipt of a transaction, once it is final. -/
def receipt? (l : Ledger) (txHash : String) : Option TransactionReceipt :=
  (l.receipts.find? (·.1 == txHash)).map (·.2)

end Ledger
end Plunder
