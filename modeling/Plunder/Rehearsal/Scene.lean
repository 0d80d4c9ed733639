import Plunder.Call.Draft
import Plunder.Rehearsal.Script

/-!
# Scenes

A scene is a rehearsal that is played step by step. A step does something to the gateway, the ledger
or the client, or it sets out a task, which runs to its end or goes on by itself under a name. After
each step everything that is due is done.

* `Scene.Step`: what can be done
* `Scene.Result`: what comes of it
* `Scene.play`: a step is played
-/

namespace Plunder

/-- A rehearsal that is played step by step. -/
structure Scene where
  rehearsal : Rehearsal
  /-- The signed calls, by the names under which they are remembered. -/
  calls : List (String × SignedCall)
  /-- The tasks that go on by themselves, by name. -/
  tasks : List (String × Nat)
  /-- The kinds of the listeners, by name. -/
  listeners : List (String × ListenerKind)

namespace Scene

/-- What can be done in a scene. -/
inductive Step where
  | hold (m : GatewayMethod) (stubborn : Bool)
  | release (m : GatewayMethod)
  | setFault (m : GatewayMethod) (f : Option Fault)
  | setSubstitute (m : GatewayMethod) (v : Option Value)
  | setRound (n : Int)
  /-- A block is made. -/
  | produce
  | pass (d : Duration)
  | settle
  /-- Waits for a task. -/
  | join (task : String)
  | cancel (task : String)
  /-- Asks whether a task has ended. -/
  | ended (task : String)
  /-- A call is signed, remembered and submitted. -/
  | submit (name : String) (d : Draft)
  | resubmit (name : String)
  /-- Waits until a remembered call is final. -/
  | awaitCall (name : String)
  | awaitHash (hash : String)
  | chart
  | read
  | startBlocks
  | stopBlocks
  /-- A flow of the client. -/
  | flow (r : Routine)
  | select (address : String)
  | listen (name : String) (kind : ListenerKind)
  | unlisten (name : String)
  | setAmount (v : Value)
  | setSigner (s : Option Signer)
  | teardown
  /-- Waits for the chart load that was begun last. -/
  | awaitChart

/-- What comes of a step. -/
inductive Result where
  | nothing
  | fault (f : Fault)
  | reply (r : Reply)
  | block (n : Nat)
  | ended (b : Bool)
  | participant (p : Participant)
  | ledger (l : Ledger)

/-- What comes of a task. -/
def Result.ofOutcome : Option Outcome → Result
  | none => .nothing
  | some (.ok r) => .reply r
  | some (.error f) => .fault f

/-- A scene before its first step. -/
def ofRehearsal (r : Rehearsal) : Scene := ⟨r, [], [], []⟩

def lookup {α : Type} (name : String) (xs : List (String × α)) : Option α :=
  (xs.find? (·.1 == name)).map (·.2)

def onto (s : Scene) (r : Rehearsal) : Scene := { s with rehearsal := r }

def withClient (s : Scene) (c : Client) : Scene := s.onto { s.rehearsal with client := c }

/-- The scene once everything that is due is done. -/
def settled (s : Scene) : Scene := s.onto s.rehearsal.settle

/-- A task is set out: it runs to its end, or goes on by itself under a name. -/
def task (s : Scene) (name : Option String) (stack : List Frame) : Scene × Result :=
  match name with
  | none =>
    let (r, o) := s.rehearsal.play stack
    (s.onto r, .ofOutcome o)
  | some name =>
    let (r, t) := s.rehearsal.spawn stack
    ({ s with tasks := (name, t) :: s.tasks }.onto r.settle, .nothing)

def submit (s : Scene) (call : SignedCall) : Scene × Result := s.task none [.serve (.submit call)]

/-- A call is signed, remembered and submitted. -/
def sign (s : Scene) (name : String) (d : Draft) : Scene × Result :=
  let c := s.rehearsal.client
  let (call, nonce) := d.sign c.now c.nonce
  let s := s.withClient { c with nonce }
  match call with
  | .error f => (s, .fault f)
  | .ok call => submit { s with calls := (name, call) :: s.calls } call

/-- The hash of a remembered call; an empty text where there is none. -/
def hashOf (s : Scene) (name : String) : String :=
  ((lookup name s.calls).bind fun c => c.txHash.toOption).getD ""

def produce (s : Scene) : Scene × Result :=
  let (r, fault) := s.rehearsal.produceBlock
  (s.onto r.settle, match fault with
    | some f => .fault f
    | none => .block r.ledger.block)

/-- Waits for a task. -/
def join (s : Scene) (name : String) : Scene × Result :=
  match lookup name s.tasks with
  | none => (s, .nothing)
  | some t =>
    let r := s.rehearsal.runUntil t
    (s.onto r, .ofOutcome (r.crew.outcome? t))

/-- The kind of a listener: that under which its name was first used. -/
def kindOf (s : Scene) (name : String) (kind : ListenerKind) : ListenerKind :=
  (lookup name s.listeners).getD kind

/-- A listener is added; the kind is that of its first use. -/
def listen (s : Scene) (name : String) (kind : ListenerKind) : Scene :=
  let kind := s.kindOf name kind
  let c := s.rehearsal.client
  { s with listeners := (name, kind) :: s.listeners }.withClient
    { c with sync := c.sync.addListener (.named name kind) }

/-- A listener is removed. -/
def unlisten (s : Scene) (name : String) : Scene :=
  match lookup name s.listeners with
  | none => s
  | some kind =>
    let c := s.rehearsal.client
    s.withClient { c with sync := c.sync.removeListener (.named name kind) }

def select (s : Scene) (address : String) : Scene × Result :=
  let c := s.rehearsal.client
  match c.sync.select address with
  | .error f => (s, .fault f)
  | .ok (sync, p) => (s.withClient { c with sync }, .participant p)

/-- The screen is dismissed. -/
def teardown (s : Scene) : Scene :=
  let (c, orders) := s.rehearsal.client.teardown
  settled (s.onto (orders.foldl Rehearsal.order { s.rehearsal with client := c }))

/-- Waits for the chart load that was begun last. -/
def awaitChart (s : Scene) : Scene :=
  match s.rehearsal.chartTask with
  | some t => s.onto (s.rehearsal.runUntil t)
  | none => s

/-- A step is played. A task that it sets out goes on by itself if it is given a name. -/
def play (s : Scene) (name : Option String) : Step → Scene × Result
  | .hold m stubborn => (s.onto (s.rehearsal.hold m stubborn), .nothing)
  | .release m => (settled (s.onto (s.rehearsal.release m)), .nothing)
  | .setFault m f => (s.onto (s.rehearsal.setFault m f), .nothing)
  | .setSubstitute m v => (s.onto (s.rehearsal.setSubstitute m v), .nothing)
  | .setRound n =>
    (s.onto { s.rehearsal with ledger := { s.rehearsal.ledger with round := n } }, .nothing)
  | .produce => s.produce
  | .pass d => (s.onto (s.rehearsal.pass d), .nothing)
  | .settle => (s.settled, .nothing)
  | .join task => s.join task
  | .cancel task =>
    (match lookup task s.tasks with
      | some t => settled (s.onto (s.rehearsal.cancel t))
      | none => s, .nothing)
  | .ended task => (s, .ended (((lookup task s.tasks).map s.rehearsal.crew.hasEnded).getD false))
  | .submit as d => s.sign as d
  | .resubmit as =>
    match lookup as s.calls with
    | some call => s.submit call
    | none => (s, .nothing)
  | .awaitCall as => s.task name [.serve (.finality ⟨s.hashOf as, ""⟩)]
  | .awaitHash hash => s.task name [.serve (.finality ⟨hash, ""⟩)]
  | .chart => s.task name [.serve .chart]
  | .read => (s, .ledger s.rehearsal.ledger)
  | .startBlocks => (settled (s.onto s.rehearsal.startBlocks), .nothing)
  | .stopBlocks =>
    let (r, fault) := s.rehearsal.stopBlocks
    (settled (s.onto r), (fault.map Result.fault).getD .nothing)
  | .flow routine => s.task name [.begin routine]
  | .select address => s.select address
  | .listen as kind => (s.listen as kind, .nothing)
  | .unlisten as => (s.unlisten as, .nothing)
  | .setAmount v =>
    let c := s.rehearsal.client
    (s.withClient { c with actions := c.actions.setAmount v }, .nothing)
  | .setSigner signer =>
    let c := s.rehearsal.client
    (s.withClient { c with actions := { c.actions with signer } }, .nothing)
  | .teardown => (s.teardown, .nothing)
  | .awaitChart => (s.awaitChart, .nothing)

end Scene
end Plunder
