import Plunder.Journal.Flags
import Plunder.Rehearsal.Script
import Plunder.Roster
import Plunder.Settings

/-!
# The node

Serves a ledger that lives as long as the node does. The roster comes from a file, the operators from
the arguments or else from the credential in the environment; a roster that cannot be loaded ends the
node with an exit code of one.

* `Node.readArgs`: what the arguments say
* `Node.found`: the ledger that is served
* `Node.serve`: the node from its arguments until it is told to stop
-/

namespace Plunder.Node

/-- What the arguments say. -/
structure Request where
  /-- What the journal is told. -/
  notes : List Note
  roster : String
  host : String
  tcpPort : Int
  contractAddress : Option String
  operators : List String
  blockTime : Binary64
  finalityTimeout : Binary64

/-- Whether a text is a whole number. -/
def isWhole (s : String) : Bool := (Numeral.parseInt s).toOption.isSome

/-- The options of a node. -/
def grammar : Options.Grammar :=
  ⟨Journal.options ++
    [⟨"--roster", .value Settings.anyText⟩, ⟨"--host", .value Settings.anyText⟩,
      ⟨"--port", .value isWhole⟩, ⟨"--contract_address", .value Settings.anyText⟩,
      ⟨"--operator", .value Settings.anyText⟩, ⟨"--block_time", .value Settings.isReal⟩,
      ⟨"--finality_timeout", .value Settings.isReal⟩], .none⟩

/-- A number out of an option; another one where it is not given. -/
def realOf (r : Options.Reading) (name : String) (absent : Binary64) : Binary64 :=
  ((r.value? name).bind Numeral.parseFloat?).getD absent

/-- What the arguments say. -/
def readArgs (args : List String) : Except Options.Refusal Request := do
  let r ← grammar.read ["--roster"] args
  if r.surplus then throw .misuse
  return { notes := Journal.debugNotes r
           roster := (r.value? "--roster").getD ""
           host := (r.value? "--host").getD "127.0.0.1"
           tcpPort := ((r.value? "--port").bind fun s => (Numeral.parseInt s).toOption).getD
             Wire.defaultTcpPort
           contractAddress := r.value? "--contract_address"
           operators := r.values "--operator"
           blockTime := realOf r "--block_time" (.ofNat 2)
           finalityTimeout := realOf r "--finality_timeout" (.ofNat 60) }

/-- The variables of the environment that a node looks at. -/
def contractVariable : String := "HAULLEDGER_LEDGER__CONTRACT_ADDRESS"
def credentialVariable : String := "HAULLEDGER_LEDGER__CREDENTIAL"

/-- The contract that is served: that of the arguments, or else of the environment. -/
def contractOf (q : Request) (env : Environment) : String :=
  match q.contractAddress with
  | some c => if c.isEmpty then (env.get? contractVariable).getD "" else c
  | none => (env.get? contractVariable).getD ""

/-- The operators in order, each once: those of the arguments, or else that of the credential. -/
def operatorsOf (q : Request) (env : Environment) : Except Fault (List String) :=
  let credential := (env.get? credentialVariable).getD ""
  -- Without operators anybody may act; with a credential only its owner.
  if q.operators.isEmpty && !credential.isEmpty then
    (Keypair.ofCredential credential).map ([·.address])
  else .ok (q.operators.eraseDups.mergeSort fun a b => a ≤ b)

def rosterNote (path : String) (f : Fault) : Note :=
  ⟨.error, .text ("cannot load roster " ++ path ++ ": " ++ f.message)⟩

/-- The note on what is served. -/
def configNote (l : Ledger) (tcpPort : Int) : Note :=
  .under .info "ledger_node_config" [("participants", .nat l.setup.roster.length),
    ("operators", .list (l.setup.operators.map .text)),
    ("contract_address", .text l.setup.contractAddress),
    ("block_time", match l.setup.blockTime with
      | some d => d.toValue
      | none => .null),
    ("port", .int tcpPort)]

def nodeNote (what : String) : Note := ⟨.info, .object [("ledger_node", .text what)]⟩

/-- The ledger that is served. -/
def found (q : Request) (env : Environment) (render : List LootRecord → Except Fault Bytes)
    (operators : List String) (roster : List Participant) : Except Fault Ledger :=
  Ledger.found
    { roster, operators, contractAddress := contractOf q env
      blockTime := some (.real q.blockTime), finalityTimeout := .real q.finalityTimeout
      verifySignatures := true, render }

/-- What a node leaves behind. -/
structure Report where
  /-- The exit code, or the fault that ended the node. -/
  outcome : Except Fault Nat
  notes : List Note
  /-- The ledger that was served, and where. -/
  served : Option (Ledger × String × Int)

/-- The node serves a ledger until it is told to stop. -/
def run (q : Request) (l : Ledger) (now : Moment) : Report :=
  let r := (Rehearsal.start l (.bare none 1 now) .direct).noting [configNote l q.tcpPort]
  let r := (r.startServer q.tcpPort).noting [nodeNote "shutdown_signal_received"]
  let (r, fault) := r.stopServer true
  ⟨match fault with
    | some f => .error f
    | none => .ok 0,
    r.notes ++ [nodeNote "stopped"], some (r.ledger, q.host, q.tcpPort)⟩

/-- A node whose roster has been read, or not. -/
def load (q : Request) (env : Environment) (render : List LootRecord → Except Fault Bytes)
    (now : Moment) (operators : List String) (roster : Except Fault (List Participant)) : Report :=
  match roster with
  | .error f =>
    if f.kind.isSystem || f.kind.isValue then ⟨.ok 1, [rosterNote q.roster f], none⟩
    else ⟨.error f, [], none⟩
  | .ok ps =>
    match found q env render operators ps with
    | .error f => ⟨.error f, [], none⟩
    | .ok l => run q l now

/-- The node from its arguments until it is told to stop. `files` are the texts of files by path. -/
def serve (env : Environment) (files : String → Option String)
    (render : List LootRecord → Except Fault Bytes) (now : Moment) (args : List String) : Report :=
  match readArgs args with
  | .error refusal => ⟨.ok refusal.code, [], none⟩
  | .ok q =>
    let report : Report := match operatorsOf q env with
      | .error f => ⟨.error f, [], none⟩
      | .ok operators => load q env render now operators (Roster.read q.roster (files q.roster))
    { report with notes := q.notes ++ report.notes }

end Plunder.Node
