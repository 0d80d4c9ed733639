import Plunder.Round.Snapshot
import Plunder.Fault
import Plunder.Journal

/-!
# Synchronizing the round

The client's copy of the round. A refresh draws a ticket, reads the round and the outstanding
participants from the ledger, and then either replaces the snapshot as a whole or leaves it alone.
Many refreshes may be in flight; their results count in the order of their tickets.

* `Synchronizer.issue`: a refresh begins
* `Synchronizer.receive`: its readings have come back
* `Synchronizer.abandon`: nobody waits for its readings any more
* `Synchronizer.select`: the participant that the next haul is for
-/

namespace Plunder

/-- The client's copy of the round, with listeners of type `L`. -/
structure Synchronizer (L : Type) where
  snapshot : Option RoundSnapshot
  /-- The ticket of the refresh that made the snapshot; zero before there is one. -/
  applied : Nat
  selected : Option Participant
  /-- Who is told of new snapshots, in order. -/
  listeners : List L
  /-- The last ticket that was drawn. -/
  issued : Nat
  /-- How many refreshes wait for their readings. -/
  waiting : Nat

namespace Synchronizer

variable {L : Type}

/-- Before anything has been read. -/
def idle : Synchronizer L := ⟨none, 0, none, [], 0, 0⟩

/-! ## Listeners -/

/-- Adds a listener behind the others; one that is there already hears everything twice. -/
def addListener (s : Synchronizer L) (l : L) : Synchronizer L :=
  { s with listeners := s.listeners ++ [l] }

/-- Removes the first entry of a listener, if there is one. -/
def removeListener [BEq L] (s : Synchronizer L) (l : L) : Synchronizer L :=
  { s with listeners := s.listeners.erase l }

/-- The note on a listener that failed. The snapshot stays as it is. -/
def listenerNote (name : String) (f : Fault) : Note :=
  .under .error "round_sync" [("listener_failed", .text name), ("error", .text f.message)]

/-! ## Views -/

/-- Whether some refresh waits for its readings. -/
def loading (s : Synchronizer L) : Bool := 0 < s.waiting

/-- The round; zero before there is a snapshot. -/
def round (s : Synchronizer L) : Nat := (s.snapshot.map (·.round)).getD 0

/-- Who has yet to report; nobody before there is a snapshot. -/
def outstanding (s : Synchronizer L) : List Participant :=
  (s.snapshot.map (·.outstanding)).getD []

/-- Whether there is a snapshot and nobody is outstanding in it. -/
def complete (s : Synchronizer L) : Bool := (s.snapshot.map (·.complete)).getD false

def select (s : Synchronizer L) (address : String) :
    Except Fault (Synchronizer L × Participant) :=
  match s.snapshot.bind (·.find address) with
  | some p => .ok ({ s with selected := some p }, p)
  | none => .error (.badValue (address ++ " has no outstanding haul this round"))

/-! ## Refreshing -/

/-- A refresh begins: it draws the next ticket and waits for its readings. -/
def issue (s : Synchronizer L) : Synchronizer L × Nat :=
  ({ s with issued := s.issued + 1, waiting := s.waiting + 1 }, s.issued + 1)

/-- A refresh ends without its readings. -/
def abandon (s : Synchronizer L) : Synchronizer L := { s with waiting := s.waiting - 1 }

/-- The two readings of a refresh, or what they failed from. -/
abbrev Readings := Except Fault (Value × List Participant)

def snapshotOf (r : Readings) : Except Fault RoundSnapshot :=
  r.bind fun p => (RoundSnapshot.ofReadings p.1 p.2).mapError .invalid

/-- What comes of a refresh whose readings have come back. -/
inductive Outcome where
  /-- The readings failed or made no snapshot. -/
  | failed (f : Fault)
  /-- A later refresh has begun in the meantime, and the snapshot is dropped. -/
  | stale
  /-- The snapshot is in place. -/
  | applied (s : RoundSnapshot)

/-- Puts a snapshot in place and selects the first outstanding participant. -/
def apply (s : Synchronizer L) (ticket : Nat) (new : RoundSnapshot) : Synchronizer L :=
  { s with snapshot := some new, applied := ticket, selected := new.outstanding.head? }

/-- The note on a round before the one that was known. The ledger is right nevertheless. -/
def regressionNotes (s : Synchronizer L) (new : RoundSnapshot) : List Note :=
  match s.snapshot with
  | some old =>
    if new.round < old.round then
      [.under .warning "round_sync"
        [("round_regressed", .object [("from", .nat old.round), ("to", .nat new.round)])]]
    else []
  | none => []

def applyNote (s : Synchronizer L) (new : RoundSnapshot) : Note :=
  if s.snapshot = some new then ⟨.debug, .object [("round_sync", .text "unchanged")]⟩
  else .under .info "round_sync" [("round", .nat new.round),
    ("outstanding", .nat new.outstanding.length), ("complete", .bool new.complete)]

def failureNote (f : Fault) : Note :=
  .under .warning "round_sync" [("status", .text "failed"), ("error", .text f.message)]

def staleNote (ticket latest : Nat) : Note :=
  .under .debug "round_sync" [("stale_result_dropped", .nat ticket), ("latest", .nat latest)]

/-- The readings of a refresh have come back. -/
def receive (s : Synchronizer L) (ticket : Nat) (r : Readings) :
    Synchronizer L × Outcome × List Note :=
  let s := s.abandon
  match snapshotOf r with
  | .error f => (s, .failed f, [failureNote f])
  | .ok new =>
    -- Only the latest ticket counts: an earlier refresh may have read an older round.
    if ticket ≠ s.issued then (s, .stale, [staleNote ticket s.issued])
    else (s.apply ticket new, .applied new, s.regressionNotes new ++ [s.applyNote new])

end Synchronizer
end Plunder
