import Plunder.Rehearsal.Turn

/-!
# Directing a rehearsal

What can be done to a rehearsal from outside: its gateway is held back or made to fail, tasks are
started, cancelled and awaited, and the ledger's blocks are made.

* `Rehearsal.hold`, `Rehearsal.release`: the answers of a method are held back and let go
* `Rehearsal.play`: a task runs to its end
* `Rehearsal.startBlocks`, `Rehearsal.stopBlocks`: the block producer
-/

namespace Plunder.Rehearsal

/-! ## The gateway -/

/-- From now on the answers of a method are held back. -/
def hold (r : Rehearsal) (m : GatewayMethod) (stubborn : Bool) : Rehearsal :=
  { r with gates := r.gates + 1 }.control m
    fun c => { c with hold := some ⟨r.gates, stubborn⟩ }

/-- The answers of a method that are held back are let go. -/
def release (r : Rehearsal) (m : GatewayMethod) : Rehearsal :=
  match (r.controls m).hold with
  | none => r
  | some h =>
    let r := r.control m fun c => { c with hold := none }
    { r with opened := r.opened ++ [h.gate], crew := r.crew.raise (.gate h.gate) }

/-- From now on a method fails; or it does not any more. -/
def setFault (r : Rehearsal) (m : GatewayMethod) (f : Option Fault) : Rehearsal :=
  r.control m fun c => { c with fault := f }

/-- From now on a method gives another answer; or it does not any more. -/
def setSubstitute (r : Rehearsal) (m : GatewayMethod) (v : Option Value) : Rehearsal :=
  r.control m fun c => { c with substitute := v }

/-! ## Tasks -/

/-- A task runs to its end, and then everything that is due is done. Without an end there is no
outcome. -/
def play (r : Rehearsal) (stack : List Frame) : Rehearsal × Option Outcome :=
  let (r, t) := r.spawn stack
  let r := r.runUntil t
  (r, r.crew.outcome? t)

def cancel (r : Rehearsal) (t : Nat) : Rehearsal := { r with crew := r.crew.cancel t }

/-- Some seconds pass. -/
def pass (r : Rehearsal) (d : Duration) : Rehearsal := (r.play [.sleep d]).1

/-! ## Blocks -/

def startedNote (blockTime : Duration) : Note :=
  .under .info "memory_ledger" [("status", .text "started"), ("block_time", blockTime.toValue)]

/-- Blocks are made from now on, where they take time; only one task makes them. -/
def startBlocks (r : Rehearsal) : Rehearsal :=
  match r.ledger.setup.blockTime, r.producer with
  | some d, none =>
    let (r, t) := r.spawn [.sleep d, .produce]
    { r with producer := some t }.noting [startedNote d]
  | _, _ => r

/-- No more blocks are made. A producer that has failed stays, and its fault is that of the call. -/
def stopBlocks (r : Rehearsal) : Rehearsal × Option Fault :=
  match r.producer with
  | none => (r, none)
  | some t =>
    let r := (r.cancel t).settle
    match r.crew.outcome? t with
    | some (.error f) =>
      if f.kind == .cancelled then ({ r with producer := none }, none) else (r, some f)
    | _ => ({ r with producer := none }, none)

/-! ## The server -/

/-- The node begins to serve, and blocks are made. -/
def startServer (r : Rehearsal) (tcpPort : Int) : Rehearsal :=
  r.startBlocks.noting [Wire.startedNote tcpPort]

/-- The node stops, and blocks are made no more. One that never served stops without a note. -/
def stopServer (r : Rehearsal) (served : Bool) : Rehearsal × Option Fault :=
  (if served then r.noting [Wire.stoppedNote] else r).stopBlocks

end Plunder.Rehearsal
