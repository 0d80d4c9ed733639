import Plunder.Rehearsal.Crew
import Plunder.Wire.Client

/-!
# Rehearsals

A rehearsal runs clients and a ledger against each other on a clock of its own. The answers of the
ledger can be held back, replaced, or made to fail, method by method, so that any interleaving of
clients and any behaviour of the gateway can be set up.

* `Control`: what is done to the answers of one method
* `Frame`: what a task is in the middle of
* `Rehearsal`: the ledger, the client, and the tasks between them
-/

namespace Plunder

/-- What holds back the answers of a method. -/
structure Hold where
  gate : Nat
  /-- Whether a held call does not give up when it is cancelled. -/
  stubborn : Bool

/-- What is done to the answers of a method. -/
structure Control where
  hold : Option Hold
  fault : Option Fault
  /-- The answer that takes the place of the ledger's. -/
  substitute : Option Value

/-- Nothing is done to the answers. -/
def Control.none : Control := ⟨.none, .none, .none⟩

/-- How the questions of clients get to the ledger. -/
inductive Link where
  | direct
  /-- As messages on the wire, with the contract that the client names. -/
  | wire (contract : String)

/-- What a task is in the middle of. -/
inductive Frame where
  /-- A flow of the client begins. -/
  | begin (r : Routine)
  /-- A flow of the client waits. -/
  | point (p : Point)
  /-- Both readings of the round are under way, each in a task. -/
  | readings (first second : Nat)
  /-- A question is put to the gateway. -/
  | ask (c : GatewayCall)
  /-- A question has gone out on the wire. -/
  | reply (c : GatewayCall)
  /-- The text of a request has come to the node. -/
  | request (body : String)
  /-- The node waits for the ledger's answer. -/
  | closing (p : Wire.Pending)
  /-- The ledger is asked. -/
  | serve (c : GatewayCall)
  /-- The ledger waits for the totals that it draws. -/
  | drawing
  /-- An answer is held back. -/
  | held (hold : Hold) (o : Outcome)
  /-- The wait for a final transaction is held back. -/
  | deferred (hold : Hold) (h : TransactionHandle)
  /-- The wait for a final transaction begins. -/
  | finality (h : TransactionHandle)
  /-- A probe looks out for a final transaction, until a deadline. -/
  | probing (h : TransactionHandle) (probe : Nat)
  /-- The deadline is over, and the probe gives up. -/
  | overdue (h : TransactionHandle) (probe : Nat)
  /-- The wait was cancelled, and the probe gives up. -/
  | withdrawn
  /-- A probe looks for a signal. -/
  | heed (s : Signal)
  /-- A probe has waited for its signal. -/
  | heeded
  /-- Some seconds are to pass. -/
  | sleep (d : Duration)
  /-- The time of the next block has come. -/
  | produce

/-- How a task goes on. -/
inductive Next where
  /-- With an outcome for the frames that it leaves. -/
  | go (frames : List Frame) (o : Outcome)
  /-- After a wait. -/
  | block (frames : List Frame) (w : Wait)
  /-- When the others have had their turns. -/
  | again (frames : List Frame)

/-- The ledger, the client, and the tasks between them. -/
structure Rehearsal where
  ledger : Ledger
  client : Client
  link : Link
  controls : GatewayMethod → Control
  /-- The gates that were opened. -/
  opened : List Nat
  /-- How many gates there have been. -/
  gates : Nat
  /-- How many requests have gone out on the wire. -/
  requests : Nat
  /-- The questions that the ledger was asked, in order. -/
  calls : List GatewayMethod
  notes : List Note
  crew : Crew Frame
  /-- The task that has its turn, with its frames and what it goes on with. -/
  running : Option (Nat × List Frame × Outcome)
  /-- The chart load that was begun last. -/
  chartTask : Option Nat
  /-- The task that makes blocks. -/
  producer : Option Nat

namespace Rehearsal

/-- A rehearsal in which nothing has happened. -/
def start (ledger : Ledger) (client : Client) (link : Link) : Rehearsal :=
  { ledger, client, link, controls := fun _ => .none, opened := [], gates := 0, requests := 0,
    calls := [], notes := [], crew := .empty, running := none, chartTask := none, producer := none }

def noting (r : Rehearsal) (notes : List Note) : Rehearsal := { r with notes := r.notes ++ notes }

/-- A new task. -/
def spawn (r : Rehearsal) (stack : List Frame) : Rehearsal × Nat :=
  let (crew, t) := r.crew.spawn stack
  ({ r with crew }, t)

/-- Changes what is done to the answers of a method. -/
def control (r : Rehearsal) (m : GatewayMethod) (f : Control → Control) : Rehearsal :=
  { r with controls := fun n => if n = m then f (r.controls n) else r.controls n }

def raised (r : Rehearsal) : Signal → Bool
  | .gate n => r.opened.contains n
  | .final hash => (r.ledger.receipt? hash).isSome

/-- Transactions became final. -/
def announce (r : Rehearsal) (finals : List String) : Rehearsal :=
  { r with crew := finals.foldl (fun c h => c.raise (.final h)) r.crew }

/-- The next block is made. -/
def produceBlock (r : Rehearsal) : Rehearsal × Option Fault :=
  let p := r.ledger.produceBlock
  ({ r with ledger := p.ledger }.noting p.notes |>.announce p.finals, p.fault)

end Rehearsal
end Plunder
