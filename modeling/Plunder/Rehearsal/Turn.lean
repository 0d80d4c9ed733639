import Plunder.Rehearsal.Gateway

/-!
# Turns

How a rehearsal goes on. The task that has its turn does one thing after the other until it waits or
ends; then the next in the queue has its turn. Time goes on only when nothing is due.

* `Rehearsal.resume`: a frame goes on with an outcome
* `Rehearsal.tick`: the smallest step of a rehearsal
* `Rehearsal.settle`: everything that is due is done
* `Rehearsal.runUntil`: time goes on until a task has ended
-/

namespace Plunder.Rehearsal

/-! ## Flows of the client -/

/-- An order of the client is carried out. -/
def order (r : Rehearsal) : Order → Rehearsal
  | .callOff =>
    match r.chartTask with
    | some t => { r with crew := r.crew.cancel t }
    | none => r
  | .begin =>
    let (r, t) := r.spawn [.begin .chart]
    { r with chartTask := some t }

/-- What a flow waits for is set going. -/
def need (r : Rehearsal) (frames : List Frame) : Need → Rehearsal × Next
  | .readings =>
    let (r, first) := r.spawn [.ask .round]
    let (r, second) := r.spawn [.ask .outstanding]
    (r, .block (.readings first second :: frames) (.all [first, second] 0 false))
  | .answer c => (r, .go (.ask c :: frames) (.ok .nothing))
  | .turn => (r, .again frames)
  | .action kind participant amount =>
    let (r, t) := r.spawn [.begin (.action kind participant amount)]
    (r, .block frames (.outcome t))
  | .chart =>
    match r.chartTask with
    | some t => (r, .block frames (.ending t none))
    | none => (r, .go frames (.ok .nothing))

/-- A step of the client's flow is carried out. -/
def perform (r : Rehearsal) (t : Turn) : Rehearsal × Next :=
  let r := t.orders.foldl order ({ r with client := t.client }.noting t.notes)
  match t.move with
  | .done o => (r, .go [] o)
  -- The points lie on top of each other, the innermost flow first.
  | .wait n points => r.need (points.map .point) n

/-- Both readings of the round. -/
def bothReadings (r : Rehearsal) (first second : Nat) (o : Outcome) : Outcome :=
  match o, r.crew.outcome? first, r.crew.outcome? second with
  | .error f, _, _ => .error f
  | .ok _, some (.ok (.answer (.round v))), some (.ok (.answer (.outstanding ps))) =>
    .ok (.readings v ps)
  | _, _, _ => .error (.badKind "no readings")

/-! ## Steps -/

/-- Some seconds pass; where there are none, the others have their turns. -/
def sleep (r : Rehearsal) (d : Duration) : Rehearsal × Next :=
  if d.isOver then (r, .again []) else (r, .block [] (.alarm (d.length?.map (r.crew.now + ·))))

/-- The block producer makes a block, and then waits for the time of the next one. -/
def produce (r : Rehearsal) (o : Outcome) : Rehearsal × Next :=
  match o with
  | .error _ => (r, .go [] o)
  | .ok _ =>
    match r.produceBlock, r.ledger.setup.blockTime with
    | (r, some f), _ => (r, .go [] (.error f))
    | (r, none), some d => (r, .go [.sleep d, .produce] (.ok .nothing))
    | (r, none), none => (r, .go [] (.ok .nothing))

/-- A frame goes on with an outcome. -/
def resume (r : Rehearsal) (o : Outcome) : Frame → Rehearsal × Next
  | .begin routine => r.whenBegun o (r.perform (r.client.begin routine))
  | .point p => r.perform (r.client.resume o p)
  | .readings first second => (r, .go [] (r.bothReadings first second o))
  | .ask c => r.whenBegun o (r.ask c)
  | .reply c => (r, .go [] (readReply c o))
  | .request body => r.whenBegun o (r.openRequest body)
  | .closing p => r.closeRequest p o
  | .serve c => r.whenBegun o (r.serve c)
  | .drawing => r.draw o
  | .held hold answer => r.afterHold hold o (.held hold answer) (r, .go [] answer)
  | .deferred hold h => r.afterHold hold o (.deferred hold h) (r.awaitFinality h)
  | .finality h => r.whenBegun o (r.awaitFinality h)
  | .probing h probe => r.afterProbe h probe o
  | .overdue h probe => r.afterDeadline h probe o
  | .withdrawn => (r, .go [] (.error .cancelled))
  | .heed s => r.whenBegun o (r.heed s)
  | .heeded => (r, .go [] o)
  | .sleep d => r.whenBegun o (r.sleep d)
  | .produce => r.produce o

/-- The task that has its turn does the next thing. -/
def advance (r : Rehearsal) (t : Nat) (frames : List Frame) (o : Outcome) : Rehearsal :=
  match frames with
  | [] => { r with crew := r.crew.finish t o, running := none }
  | f :: frames =>
    let (r, next) := r.resume o f
    match next with
    | .go fs o => { r with running := some (t, fs ++ frames, o) }
    | .block fs w => { r with crew := r.crew.block t (fs ++ frames) w, running := none }
    | .again fs => { r with crew := r.crew.again t (fs ++ frames), running := none }

/-- What is first in the queue has its turn. -/
def dequeue (r : Rehearsal) (d : Due) (queue : List Due) : Rehearsal :=
  let crew := { r.crew with queue }
  match d with
  | .news watcher t => { r with crew := crew.tell watcher t }
  | .turn t =>
    match crew.take t with
    | some (crew, stack, o) => { r with crew, running := some (t, stack, o) }
    | none => { r with crew }

/-- The smallest step of a rehearsal; none where nothing is due. -/
def tick (r : Rehearsal) : Option Rehearsal :=
  match r.running, r.crew.queue with
  | some (t, frames, o), _ => some (r.advance t frames o)
  | none, d :: queue => some (r.dequeue d queue)
  | none, [] => none

/-- At most some number of steps. -/
def ticks : Nat → Rehearsal → Rehearsal
  | 0, r => r
  | n + 1, r =>
    match r.tick with
    | some r => ticks n r
    | none => r

/-- More steps than anything that is due takes. -/
def patience : Nat := 1000000

/-- Everything that is due is done. -/
def settle (r : Rehearsal) : Rehearsal := ticks patience r

/-- Time goes on to the next alarm, at most some number of times, until a task has ended. -/
def elapse : Nat → Nat → Rehearsal → Rehearsal
  | 0, _, r => r
  | n + 1, t, r =>
    if r.crew.hasEnded t then r
    else
      match r.crew.elapse with
      | some crew => elapse n t { r with crew }.settle
      | none => r

/-- Time goes on until a task has ended. -/
def runUntil (r : Rehearsal) (t : Nat) : Rehearsal := elapse patience t r.settle

end Plunder.Rehearsal
