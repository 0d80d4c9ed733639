import Plunder.Client.Flow

/-!
# Tasks that take turns

A crew is a set of tasks on one clock. A task runs until it waits for something; what is due is in a
queue and is done in order. Time stands still while anything is due.

* `Crew.spawn`, `Crew.block`, `Crew.finish`: a task begins, waits and ends
* `Crew.cancel`: a task is told to give up what it waits for
* `Crew.raise`, `Crew.elapse`: a signal is raised, and time goes on to the next alarm
* `Crew.tell`: a task hears that another one has ended
-/

namespace Plunder

/-- What is raised once and stays so. -/
inductive Signal where
  /-- A gate is opened. -/
  | gate (number : Nat)
  /-- A transaction is final. -/
  | final (txHash : String)
  deriving DecidableEq

/-- What a task waits for. -/
inductive Wait where
  | signal (s : Signal)
  /-- The time comes; never if there is none. -/
  | alarm (due : Option Rat)
  /-- All of these tasks end or one of them fails; how many ends it has heard of, and whether it was
  told to give up. -/
  | all (tasks : List Nat) (heard : Nat) (withdrawn : Bool)
  /-- A task ends, whose outcome is then the outcome of the wait. -/
  | outcome (task : Nat)
  /-- A task ends, or the time comes. -/
  | ending (task : Nat) (due : Option Rat)

/-- When a wait ends by itself. -/
def Wait.due? : Wait → Option Rat
  | .alarm due | .ending _ due => due
  | _ => none

/-- How a task stands. -/
inductive Mode where
  /-- Its next turn is due, with an outcome of what it waited for. -/
  | scheduled (o : Outcome)
  | blocked (w : Wait)
  | ended (o : Outcome)

/-- A task, with the frames of what it is in the middle of. -/
structure Task (F : Type) where
  stack : List F
  mode : Mode
  /-- Whether it was cancelled while its next turn was due. -/
  withdrawn : Bool
  /-- The tasks that are to be told of its end. -/
  watchers : List Nat

/-- What is due. -/
inductive Due where
  /-- The next turn of a task. -/
  | turn (task : Nat)
  /-- A task is to be told that another one has ended. -/
  | news (watcher task : Nat)

/-- Tasks that take turns. -/
structure Crew (F : Type) where
  tasks : List (Task F)
  queue : List Due
  /-- The tasks that wait for signals, in the order in which they began to wait. -/
  waiting : List (Nat × Signal)
  now : Rat

namespace Crew

variable {F : Type}

/-- No tasks yet. -/
def empty : Crew F := ⟨[], [], [], 0⟩

def outcome? (c : Crew F) (t : Nat) : Option Outcome :=
  match c.tasks[t]? with
  | some ⟨_, .ended o, _, _⟩ => some o
  | _ => none

def hasEnded (c : Crew F) (t : Nat) : Bool := (c.outcome? t).isSome

def wait? (c : Crew F) (t : Nat) : Option Wait :=
  match c.tasks[t]? with
  | some ⟨_, .blocked w, _, _⟩ => some w
  | _ => none

def modify (c : Crew F) (t : Nat) (f : Task F → Task F) : Crew F :=
  { c with tasks := c.tasks.modify t f }

/-- Puts something at the end of the queue. -/
def push (c : Crew F) (d : Due) : Crew F := { c with queue := c.queue ++ [d] }

/-! ## Beginning and going on -/

/-- A new task, whose first turn is due. -/
def spawn (c : Crew F) (stack : List F) : Crew F × Nat :=
  let t := c.tasks.length
  ({ c with
      tasks := c.tasks ++ [⟨stack, .scheduled (.ok .nothing), false, []⟩]
      queue := c.queue ++ [.turn t] }, t)

/-- The next turn of a task is due, with an outcome. -/
def schedule (c : Crew F) (t : Nat) (o : Outcome) : Crew F :=
  let c := c.modify t fun task => { task with mode := .scheduled o }
  { c with waiting := c.waiting.filter (·.1 != t), queue := c.queue ++ [.turn t] }

/-- A task stops for others to take their turns. -/
def again (c : Crew F) (t : Nat) (stack : List F) : Crew F :=
  (c.modify t fun task => { task with stack }).schedule t (.ok .nothing)

/-! ## Waiting -/

/-- A task is to be told of the end of another one. -/
def watch (c : Crew F) (watcher t : Nat) : Crew F :=
  if c.hasEnded t then c.push (.news watcher t)
  else c.modify t fun task => { task with watchers := task.watchers ++ [watcher] }

/-- A task waits. -/
def block (c : Crew F) (t : Nat) (stack : List F) (w : Wait) : Crew F :=
  let c := c.modify t fun task => { task with stack, mode := .blocked w }
  match w with
  | .signal s => { c with waiting := c.waiting ++ [(t, s)] }
  | .alarm _ => c
  | .all ts _ _ => ts.foldl (fun c child => c.watch t child) c
  | .outcome child | .ending child _ => c.watch t child

/-- A task ends, and those who watch it are to be told. -/
def finish (c : Crew F) (t : Nat) (o : Outcome) : Crew F :=
  let watchers := (c.tasks[t]?.map (·.watchers)).getD []
  let c := c.modify t fun task => { task with stack := [], mode := .ended o, watchers := [] }
  { c with queue := c.queue ++ watchers.map (.news · t) }

/-- A task hears that another one has ended. -/
def tell (c : Crew F) (watcher t : Nat) : Crew F :=
  match c.wait? watcher, c.outcome? t with
  | some (.outcome child), some o => if child = t then c.schedule watcher o else c
  | some (.ending child _), some _ => if child = t then c.schedule watcher (.ok .nothing) else c
  | some (.all ts heard withdrawn), some o =>
    if !ts.contains t then c
    else
      match o with
      | .error f => c.schedule watcher (.error f)
      | .ok _ =>
        if heard + 1 < ts.length then
          c.modify watcher fun task =>
            { task with mode := .blocked (.all ts (heard + 1) withdrawn) }
        else c.schedule watcher (if withdrawn then .error .cancelled else .ok .nothing)
  | _, _ => c

/-! ## Cancelling -/

/-- Cancels a task that waits for no other tasks than by their ends. Tells whether there was anything
to cancel. -/
def cancelOne (c : Crew F) (t : Nat) : Crew F × Bool :=
  match c.tasks[t]? with
  | some ⟨_, .scheduled _, _, _⟩ => (c.modify t fun task => { task with withdrawn := true }, true)
  | some ⟨_, .blocked _, _, _⟩ => (c.schedule t (.error .cancelled), true)
  | _ => (c, false)

/-- Cancels several tasks. Tells whether there was anything to cancel. -/
def cancelAll (c : Crew F) (ts : List Nat) : Crew F × Bool :=
  ts.foldl (fun acc t =>
    let (c, found) := acc.1.cancelOne t
    (c, acc.2 || found)) (c, false)

/-- Cancels a task. One that waits for all of several tasks hands it on to them. -/
def cancel (c : Crew F) (t : Nat) : Crew F :=
  match c.wait? t with
  -- The tasks are cancelled in its place, and it hears of that from them.
  | some (.all ts heard _) =>
    let (c, any) := c.cancelAll ts
    if any then c.modify t fun task => { task with mode := .blocked (.all ts heard true) }
    else c.modify t fun task => { task with withdrawn := true }
  | _ => (c.cancelOne t).1

/-! ## Signals and time -/

/-- A signal is raised, and everyone who waits for it goes on. -/
def raise (c : Crew F) (s : Signal) : Crew F :=
  (c.waiting.filter (·.2 == s)).foldl (fun c w => c.schedule w.1 (.ok .nothing)) c

/-- When a task goes on by itself. -/
def dueOf (t : Task F) : Option Rat :=
  match t.mode with
  | .blocked w => Wait.due? w
  | _ => none

/-- The next time at which a task goes on by itself. -/
def nextAlarm (c : Crew F) : Option Rat :=
  (c.tasks.filterMap dueOf).foldl (fun least d =>
    match least with
    | none => some d
    | some l => some (if d < l then d else l)) none

/-- The tasks that go on by themselves until some time. -/
def dueBy (c : Crew F) (time : Rat) : List Nat :=
  (List.range c.tasks.length).filter fun t =>
    match (c.tasks[t]?).bind dueOf with
    | some due => due ≤ time
    | none => false

def elapse (c : Crew F) : Option (Crew F) :=
  c.nextAlarm.map fun time =>
    (c.dueBy time).foldl (fun c t => c.schedule t (.ok .nothing)) { c with now := time }

/-- The turn of a task begins: its frames, and what it goes on with. -/
def take (c : Crew F) (t : Nat) : Option (Crew F × List F × Outcome) :=
  match c.tasks[t]? with
  | some ⟨stack, .scheduled o, withdrawn, _⟩ =>
    some (c.modify t fun task => { task with withdrawn := false }, stack,
      if withdrawn then .error .cancelled else o)
  | _ => none

end Crew
end Plunder
