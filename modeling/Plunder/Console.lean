import Plunder.Journal.Flags
import Plunder.Leaderboard
import Plunder.Rehearsal.Script

/-!
# The console

The commands by which a user works with a served ledger: to see the round, to report a haul, to start
a new round, and to see the loot totals. A command prints lines and ends with an exit code, which is
one where something went wrong that the user is told of.

* `Console.readArgs`: what the arguments say
* `Console.viewLines`, `Console.barLine`: what is printed of a screen and of a bar
* `Console.execute`: a command from its arguments to its exit code
-/

namespace Plunder.Console

/-! ## Arguments -/

/-- What the user wants. -/
inductive Command where
  | status
  | report (amount : String) (participant : Option String)
  | sail
  | charter

/-- What the arguments say. -/
structure Request where
  /-- What the journal is told. -/
  notes : List Note
  overrides : Fields
  /-- Where a copy of the chart goes. -/
  chartOut : Option String
  command : Command

/-- The option that says where a copy of the chart goes. -/
def chartOption : String := "--chart_out"

/-- The option that says whom a haul is for. -/
def participantOption : String := "--participant"

/-- What may stand in front of the command. -/
def grammar : Options.Grammar :=
  ⟨Journal.options ++ Settings.options ++ [⟨chartOption, .value Settings.anyText⟩],
    .command ["status", "report", "sail", "charter"]⟩

/-- What may stand after the command to report a haul. -/
def reportGrammar : Options.Grammar :=
  ⟨[⟨participantOption, .value Settings.anyText⟩], .one⟩

/-- What may stand after the other commands. -/
def plainGrammar : Options.Grammar := ⟨[], .none⟩

/-- The command of a name with the arguments after it, and whether some of them found no use. -/
def readCommand (name : String) (args : List String) : Except Options.Refusal (Command × Bool) := do
  if name = "report" then
    let r ← reportGrammar.read [] args
    return (.report (r.operand.getD "") (r.value? participantOption), r.surplus)
  else
    let r ← plainGrammar.read [] args
    let command := if name = "sail" then .sail else if name = "charter" then .charter else .status
    return (command, r.surplus)

/-- What the arguments say. -/
def readArgs (args : List String) : Except Options.Refusal Request := do
  let r ← grammar.read [] args
  let (command, surplus) ← readCommand (r.operand.getD "") r.rest
  if surplus || r.surplus then throw .misuse
  return ⟨Journal.debugNotes r ++ Journal.traceNotes r, Settings.overridesOf r,
    r.value? chartOption, command⟩

/-! ## What is printed -/

/-- A text that there is, and is not empty. -/
def some? (t : Option String) : Option String := t.filter fun s => !s.isEmpty

/-- The line of an outstanding participant; the selected one is marked. -/
def participantLine (selected : Option Participant) (p : Participant) : String :=
  let marked := (selected.map (·.address == p.address)).getD false
  " " ++ (if marked then "*" else " ") ++ " " ++ p.label

/-- The lines in the middle of the screen: who has yet to report, or what stands for the chart. -/
def middleLines (v : ScreenView) : List String :=
  if !v.outstanding.isEmpty then
    "Yet to report:" :: v.outstanding.map (participantLine v.selected)
  else
    match v.chart with
    | .ready => ["Round chart: " ++ v.chartUri.getD ""]
    | .loading => ["Loading on-chain chart..."]
    | .link => ["All have reported. Call the charter: " ++ v.charterUrl.getD ""]
    | .none => []

def viewLines (v : ScreenView) : List String :=
  if v.closed then [v.notice.getD ""]
  else
    ["Days at sea: " ++ toString v.round] ++ middleLines v
      ++ ((some? v.error).map ("error: " ++ ·)).toList ++ (some? v.success).toList

/-- The width of the longest bar, and of the names in front of the bars. -/
def barWidth : Nat := 40
def nameWidth : Nat := 20

def widthOf (height : Binary64) : Nat :=
  max 1 (height.mul (.ofNat barWidth)).roundEven.toNat

def barLine (b : Leaderboard.Bar) : Except Fault String := do
  let label ← b.label
  let blanks := String.ofList (List.replicate (nameWidth - b.name.length) ' ')
  return b.name ++ blanks ++ " " ++ String.ofList (List.replicate (widthOf b.height) '#')
    ++ " " ++ label

/-- The lines of bars, up to the first that cannot be written. -/
def barLines : List Leaderboard.Bar → List String × Option Fault
  | [] => ([], none)
  | b :: bs =>
    match barLine b with
    | .error f => ([], some f)
    | .ok line =>
      let (lines, fault) := barLines bs
      (line :: lines, fault)

/-! ## Running a command -/

/-- What a command leaves behind. -/
structure Report where
  /-- The exit code, or the fault that ended the command. -/
  outcome : Except Fault Nat
  lines : List String
  /-- How long the client of the command waits for the node, once there is a client. -/
  timeout : Option Binary64
  /-- The copy of the chart that was made, and where. -/
  copy : Option (String × Bytes)

def ended (code : Nat) (lines : List String) : Report := ⟨.ok code, lines, none, none⟩

/-- A command that was ended by a fault. -/
def stopped (f : Fault) (lines : List String) : Report := ⟨.error f, lines, none, none⟩

/-- The exit code for what the user is told. -/
def codeOf (error : Option String) : Nat := if (some? error).isSome then 1 else 0

/-- The totals, as the node gives them. -/
def readTotals (r : Rehearsal) : Rehearsal × Except Fault (List LootRecord) :=
  match r.play [.ask .lootTotals] with
  | (r, some (.ok (.answer (.lootTotals records)))) => (r, .ok records)
  | (r, some (.error f)) => (r, .error f)
  | (r, _) => (r, .error (.badKind "no totals"))

/-- The loot totals as bars. -/
def charter (r : Rehearsal) (s : Settings) : Rehearsal × Report :=
  let (r, view) :=
    if s.charterOpen then
      let (r, totals) := readTotals r
      let (view, notes) := Leaderboard.view totals
      (r.noting notes, view)
    else (r, Leaderboard.closedView)
  match some? view.error, some? view.notice with
  | some e, _ => (r, ended 1 [e])
  | none, some n => (r, ended 0 [n])
  | none, none =>
    match barLines view.bars with
    | (lines, none) => (r, ended 0 lines)
    | (lines, some f) => (r, stopped f lines)

/-- Whether a view lets the user act. -/
def isOpen (v : ScreenView) : Bool := !v.closed && (some? v.error).isNone

/-- The participant that a haul is to be reported for is selected, if one is named. -/
def select (c : Client) (participant : Option String) : Except Fault Client :=
  match some? participant with
  | none => .ok c
  | some address => (c.sync.select address).map fun s => { c with sync := s.1 }

/-- The fault of an action that the screen did not turn into a result. -/
def faultOf : Option Outcome → Option Fault
  | some (.error f) => some f
  | _ => none

/-- The copy of the chart is made, if one is wanted and there is a chart. -/
def copyChart (c : Client) (unwritable : String → Option Fault) (chartOut : Option String)
    (v : ScreenView) : Except Fault (Option (String × Bytes)) :=
  match some? chartOut, c.screen.handle with
  | some path, some h =>
    if v.chart ≠ .ready then .ok none
    else
      match unwritable path, c.desk.content? h.path with
      | some f, _ => .error f
      | none, some bs => .ok (some (path, bs))
      | none, none => .error (.noFile h.path)
  | _, _ => .ok none

def copyLine (path : String) : String := "Round chart saved to " ++ path

/-- The screen is shown, and the copy of its chart is made. -/
def finish (c : Client) (unwritable : String → Option Fault) (chartOut : Option String)
    (v : ScreenView) : Report :=
  match copyChart c unwritable chartOut v with
  | .error f => stopped f (viewLines v)
  | .ok none => ended (codeOf v.error) (viewLines v)
  | .ok (some (path, bs)) =>
    { ended (codeOf v.error) (viewLines v ++ [copyLine path]) with copy := some (path, bs) }

/-- How a command goes on. -/
inductive Next where
  /-- The screen carries out an action. -/
  | act (client : Client) (routine : Routine)
  /-- The command is over. -/
  | leave (report : Report)

/-- How a command goes on once its screen is loaded: the action of the command is carried out, if it
has one and the view lets the user act. -/
def afterLoad (c : Client) (unwritable : String → Option Fault) (q : Request) :
    Option Outcome → Next
  | some (.ok (.view v)) =>
    if !isOpen v then .leave (finish c unwritable q.chartOut v)
    else
      match q.command with
      | .report amount participant =>
        match select c participant with
        -- Nobody of that address is outstanding.
        | .error f => .leave (ended 1 ["error: " ++ f.message])
        | .ok c => .act c (.report (some (.text amount)) none)
      | .sail => .act c .setSail
      | _ => .leave (finish c unwritable q.chartOut v)
  | some (.error f) => .leave (stopped f [])
  | _ => .leave (stopped (.badKind "no view") [])

/-- What a command ends with once its action has ended: the screen is looked at again. -/
def afterAction (c : Client) (unwritable : String → Option Fault) (q : Request)
    (o : Option Outcome) : Report :=
  match faultOf o with
  | some f => stopped f []
  | none => finish c unwritable q.chartOut c.view

/-- The screen is dismissed. -/
def leave (r : Rehearsal) : Rehearsal :=
  let (client, orders) := r.client.teardown
  (orders.foldl Rehearsal.order { r with client }).settle

/-- A command that shows the screen. -/
def screen (r : Rehearsal) (unwritable : String → Option Fault) (q : Request) :
    Rehearsal × Report :=
  let (r, o) := r.play [.begin .load]
  match afterLoad r.client unwritable q o with
  | .leave report => (leave r, report)
  | .act client routine =>
    let (r, o) := { r with client }.play [.begin routine]
    (leave r, afterAction r.client unwritable q o)

/-- A client of the served ledger takes its place in the rehearsal. -/
def connect (r : Rehearsal) (s : Settings) (signer : Option Signer) : Rehearsal :=
  { r with
    client := .fresh s signer (.empty true) r.client.nonce r.client.now
    link := .wire s.contractAddress, requests := 0, crew := .empty, running := none,
    chartTask := none }

/-- The signer of the settings, if there is a credential. -/
def signerOf (s : Settings) : Except Fault (Option Signer) :=
  if s.hasCredential then (Signer.ofCredential s.credential s.contractAddress).map some
  else .ok none

/-- A command with its settings. -/
def run (r : Rehearsal) (unwritable : String → Option Fault) (s : Settings) (q : Request) :
    Rehearsal × Report :=
  let (r, report) :=
    match q.command with
    | .charter => charter (connect r s none) s
    | _ =>
      match signerOf s with
      | .error f => (r, stopped f [])
      | .ok signer => screen (connect r s signer) unwritable q
  (r, { report with timeout := some s.requestTimeout })

/-- A command from its arguments to its exit code. -/
def execute (r : Rehearsal) (env : Environment) (unwritable : String → Option Fault)
    (args : List String) : Rehearsal × Report :=
  match readArgs args with
  | .error refusal => (r, ended refusal.code [])
  | .ok q =>
    let r := r.noting q.notes
    match Settings.load q.overrides env with
    | .error i => (r, stopped (.invalid i) [])
    | .ok s => run (r.noting [s.note]) unwritable s q

end Plunder.Console
