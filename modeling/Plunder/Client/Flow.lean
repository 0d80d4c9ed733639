import Plunder.Client.Basic

/-!
# Flows of the client

What a client does in steps: it begins, waits for something, and goes on with what came. A flow that
waits is a stack of points; the flow that a point called returns to the point beneath it. Nothing
here says when a flow goes on, so that every interleaving of flows is a sequence of these steps.

* `Client.begin`: the first step of a flow
* `Client.resume`: the step from a point, with what came
* `Client.proceed`: the same from a stack of points
-/

namespace Plunder

/-- What comes back to a flow that has waited, or out of one that has ended. -/
inductive Reply where
  | nothing
  /-- Both readings of the round. -/
  | readings (round : Value) (outstanding : List Participant)
  | answer (a : Answer)
  | snapshot (s : Option RoundSnapshot)
  | result (r : Option TransactionResult)
  | view (v : ScreenView)
  /-- A message on the wire. -/
  | message (v : Value)
  deriving Inhabited

/-- What comes back, or the fault in its place. -/
abbrev Outcome := Except Fault Reply

def Outcome.isCancelled : Outcome → Bool
  | .error f => f.kind == .cancelled
  | .ok _ => false

/-- What a client can set out to do. -/
inductive Routine where
  /-- Reads the round again. -/
  | refresh
  /-- Reports a haul, by default for the selected participant and of the amount typed. -/
  | submitHaul (participant : Option String) (amount : Option Value)
  /-- Starts a new round. -/
  | advanceRound
  /-- An action that was launched; it goes on when nobody waits for it. -/
  | action (kind : ActionKind) (participant : String) (amount : Value)
  /-- Loads the screen. -/
  | load
  /-- Reports a haul from the screen. -/
  | report (amount : Option Value) (participant : Option String)
  /-- Starts a new round from the screen. -/
  | setSail
  /-- Fetches the chart for the screen. -/
  | chart

/-- What a flow waits for. -/
inductive Need where
  /-- Both readings of the round, asked for side by side. -/
  | readings
  /-- The answer to a question. -/
  | answer (c : GatewayCall)
  /-- Its next turn. -/
  | turn
  /-- The end of an action, which begins here and is not cancelled along with the flow. -/
  | action (kind : ActionKind) (participant : String) (amount : Value)
  /-- The end of the chart load that was begun last, if there is one. -/
  | chart

/-- Where a flow waits. -/
inductive Point where
  /-- A refresh waits for its readings. -/
  | readings (ticket : Nat)
  /-- A refresh waits for a listener, with others behind it. -/
  | listening (ticket : Nat) (new : RoundSnapshot) (current : Listener) (others : List Listener)
  /-- An action waits for its transaction to be accepted. -/
  | submission (kind : ActionKind)
  /-- An action waits for its transaction to become final. -/
  | finality (kind : ActionKind)
  /-- An action waits for the refresh that follows it. -/
  | followUp (kind : ActionKind)
  /-- The screen waits for an action. -/
  | reporting (kind : ActionKind)
  /-- The screen waits for its first refresh. -/
  | loading
  /-- The screen waits for its chart. -/
  | drawing
  /-- A chart load that began in some generation of the screen waits for the payload. -/
  | chart (generation : Nat)

/-- How a step of a flow ends. -/
inductive Move where
  | done (o : Outcome)
  | wait (need : Need) (points : List Point)

/-- What comes of a step. -/
structure Turn where
  client : Client
  notes : List Note
  orders : List Order
  move : Move

namespace Turn

def finish (c : Client) (notes : List Note) (o : Outcome) : Turn := ⟨c, notes, [], .done o⟩

def await (c : Client) (notes : List Note) (need : Need) (p : Point) : Turn :=
  ⟨c, notes, [], .wait need [p]⟩

/-- The step goes on at a point once the flow that it called ends. -/
def into (t : Turn) (p : Point) (resume : Client → Outcome → Turn) : Turn :=
  match t.move with
  | .wait need ps => { t with move := .wait need (ps ++ [p]) }
  | .done o =>
    let next := resume t.client o
    { next with notes := t.notes ++ next.notes, orders := t.orders ++ next.orders }

def after (t : Turn) (notes : List Note) (orders : List Order) : Turn :=
  { t with notes := notes ++ t.notes, orders := orders ++ t.orders }

end Turn

namespace Client

/-! ## Refreshing -/

def refresh (c : Client) : Turn :=
  let (sync, ticket) := c.sync.issue
  .await { c with sync } [] .readings (.readings ticket)

/-- Tells listeners of a snapshot, one after the other. -/
def notify (ticket : Nat) (new : RoundSnapshot) : List Listener → Client → Turn
  | [], c => .finish c [] (.ok (.snapshot (some new)))
  | l :: ls, c =>
    if l.waits then .await c [] .turn (.listening ticket new l ls)
    else
      let (c, notes, orders) := c.hear l ticket new
      (notify ticket new ls c).after notes orders

/-- The readings that came, or the fault in their place. -/
def readingsOf : Outcome → Synchronizer.Readings
  | .ok (.readings round outstanding) => .ok (round, outstanding)
  | .ok _ => .error (.badKind "no readings")
  | .error f => .error f

/-- A refresh goes on with its readings. -/
def afterReadings (c : Client) (ticket : Nat) (o : Outcome) : Turn :=
  -- A cancelled refresh leaves the snapshot alone, and no listener hears of it.
  if o.isCancelled then .finish { c with sync := c.sync.abandon } [] o
  else
    let (sync, outcome, notes) := c.sync.receive ticket (readingsOf o)
    let c := { c with sync }
    match outcome with
    | .failed f => .finish c notes (.error (.sync f))
    -- Whoever waits for a late result gets the snapshot that is in place by now.
    | .stale => .finish c notes (.ok (.snapshot sync.snapshot))
    | .applied new => (notify ticket new sync.listeners c).after notes []

/-- A listener that has let others go first goes on, and then those behind it. -/
def afterTurn (c : Client) (ticket : Nat) (new : RoundSnapshot) (l : Listener)
    (others : List Listener) (o : Outcome) : Turn :=
  match o with
  | .error _ => .finish c [] o
  | .ok _ =>
    let (c, notes, orders) := c.hear l ticket new
    (notify ticket new others c).after notes orders

/-! ## Actions -/

/-- An action is launched, unless one of its kind is in flight. -/
def launch (c : Client) (kind : ActionKind) (participant : String) (amount : Value) : Turn :=
  match c.actions.launch kind with
  | .error f => .finish c [] (.error f)
  | .ok (actions, note) => ⟨{ c with actions }, [note], [], .wait (.action kind participant amount) []⟩

/-- A haul is reported, by default for the selected participant and of the amount typed. -/
def submitHaul (c : Client) (participant : Option String) (amount : Option Value) : Turn :=
  let selected := (c.sync.selected.map (·.address)).getD ""
  c.launch .haul (participant.getD selected) (amount.getD c.actions.feedback.amount)

def advanceRound (c : Client) : Turn := c.launch .advance "" .null

def signed (c : Client) (kind : ActionKind) (participant : String) (amount : Value) :
    Actions.Signed :=
  match kind with
  | .haul => c.actions.signHaul c.now c.nonce c.sync.snapshot participant amount
  | .advance => c.actions.signAdvance c.now c.nonce c.sync.snapshot

def finishAction (c : Client) (kind : ActionKind) (notes : List Note) (o : Outcome) : Turn :=
  .finish { c with actions := c.actions.finish kind } notes o

/-- An action fails. -/
def failAction (c : Client) (kind : ActionKind) (notes : List Note) (f : Fault) : Turn :=
  -- A cancelled action has no outcome, so the user is told nothing of it.
  if f.kind == .cancelled then c.finishAction kind notes (.error f)
  else
    let (actions, note) := c.actions.fail kind f
    finishAction { c with actions } kind (notes ++ [note]) (.error (Actions.failureOf kind f))

/-- A launched action begins: its call is signed and submitted. -/
def action (c : Client) (kind : ActionKind) (participant : String) (amount : Value) : Turn :=
  let s := c.signed kind participant amount
  let c := { c with nonce := c.nonce + s.nonces }
  match s.call with
  | .error f => c.failAction kind s.notes f
  | .ok call => .await c s.notes (.answer (.submit call)) (.submission kind)

/-- An action goes on once its transaction is accepted. -/
def afterSubmission (c : Client) (kind : ActionKind) : Outcome → Turn
  | .ok (.answer (.handle h)) =>
    .await c [Actions.submittedNote h] (.answer (.finality h)) (.finality kind)
  | .ok _ => c.failAction kind [] (.badKind "no handle")
  | .error f => c.failAction kind [] f

/-- An action ends with the refresh that follows it. -/
def afterRefresh (c : Client) (kind : ActionKind) : Outcome → Turn
  | .ok _ => c.finishAction kind [] (.ok (.result (some (c.actions.result kind))))
  | .error f =>
    if f.kind == .sync then
      -- The ledger has confirmed the action; only the copy of the round is old.
      let (actions, note) := c.actions.refreshFailed kind f
      finishAction { c with actions } kind [note] (.ok (.result (some (actions.result kind))))
    else c.finishAction kind [] (.error f)

/-- An action goes on once its transaction is final. -/
def afterFinality (c : Client) (kind : ActionKind) : Outcome → Turn
  | .ok (.answer (.receipt r)) =>
    match Actions.confirm r with
    | .error f => c.failAction kind [] f
    | .ok hash =>
      let (actions, note) := c.actions.succeed kind hash
      ((refresh { c with actions }).into (.followUp kind) (afterRefresh · kind)).after [note] []
  | .ok _ => c.failAction kind [] (.badKind "no receipt")
  | .error f => c.failAction kind [] f

/-! ## The screen -/

/-- The screen's answer to an action: a failure is in the result. -/
def afterAction (c : Client) (kind : ActionKind) : Outcome → Turn
  | .ok r => .finish c [] (.ok r)
  | .error f =>
    if f.kind.isSubmission then .finish c [] (.ok (.result (some (c.actions.result kind))))
    else .finish c [] (.error f)

/-- A haul is reported from the screen. -/
def report (c : Client) (amount : Option Value) (participant : Option String) : Turn :=
  if c.screen.closed then .finish c [] (.ok (.result none))
  else
    let c := match amount with
      | some a => { c with actions := c.actions.setAmount a }
      | none => c
    -- The amount stays typed in even where the report is refused.
    (c.submitHaul participant none).into (.reporting .haul) (afterAction · .haul)

/-- A new round is started from the screen. -/
def setSail (c : Client) : Turn :=
  if c.screen.closed then .finish c [] (.ok (.result none))
  else c.advanceRound.into (.reporting .advance) (afterAction · .advance)

/-- The screen is shown. -/
def afterChart (c : Client) : Outcome → Turn
  | .ok _ => .finish c [] (.ok (.view c.view))
  | .error f => .finish c [] (.error f)

/-- The screen waits for its chart once the round is there. -/
def afterLoading (c : Client) : Outcome → Turn
  | .ok _ => .await c [] .chart .drawing
  | .error f =>
    if f.kind == .sync then
      -- The screen is shown nevertheless, with the error on it.
      .await { c with actions := c.actions.setError (some f.message) } [] .chart .drawing
    else .finish c [] (.error f)

def load (c : Client) : Turn :=
  if c.screen.closed then .finish c [] (.ok (.view c.view))
  else
    (refresh { c with actions := c.actions.setError none }).into .loading afterLoading

def chart (c : Client) : Turn :=
  .await c [] (.answer .chart) (.chart c.screen.generation)

def arrivalOf (c : Client) (generation : Nat) : Outcome → Screen.Arrival
  | .ok (.answer (.chart v)) => c.screen.receive c.desk generation v
  | .ok _ => c.screen.receive c.desk generation .null
  | .error f => c.screen.fetchFailed c.desk f

/-- The chart has arrived, or not. -/
def afterFetch (c : Client) (generation : Nat) (o : Outcome) : Turn :=
  if o.isCancelled then .finish c [] o
  else
    let a := c.arrivalOf generation o
    .finish { c with screen := a.screen, desk := a.desk } a.notes
      (match a.fault with
        | some f => .error f
        | none => .ok .nothing)

/-- The screen is dismissed: nobody is told of snapshots any more, and the chart goes. -/
def teardown (c : Client) : Client × List Order :=
  let (screen, desk) := c.screen.dismiss c.desk
  ({ c with sync := c.sync.removeListener .screen, screen, desk }, [.callOff])

/-! ## Steps -/

/-- The first step of a flow. -/
def begin (c : Client) : Routine → Turn
  | .refresh => c.refresh
  | .submitHaul participant amount => c.submitHaul participant amount
  | .advanceRound => c.advanceRound
  | .action kind participant amount => c.action kind participant amount
  | .load => c.load
  | .report amount participant => c.report amount participant
  | .setSail => c.setSail
  | .chart => c.chart

/-- The step from a point, with what came. -/
def resume (c : Client) (o : Outcome) : Point → Turn
  | .readings ticket => c.afterReadings ticket o
  | .listening ticket new l others => c.afterTurn ticket new l others o
  | .submission kind => c.afterSubmission kind o
  | .finality kind => c.afterFinality kind o
  | .followUp kind => c.afterRefresh kind o
  | .reporting kind => c.afterAction kind o
  | .loading => c.afterLoading o
  | .drawing => c.afterChart o
  | .chart generation => c.afterFetch generation o

/-- The step from a stack of points: what the upper flow ends with goes to the point beneath. -/
def proceed (c : Client) (o : Outcome) : List Point → Turn
  | [] => .finish c [] o
  | p :: ps =>
    let t := c.resume o p
    match t.move with
    | .wait need qs => { t with move := .wait need (qs ++ ps) }
    | .done o => (proceed t.client o ps).after t.notes t.orders

end Client
end Plunder
