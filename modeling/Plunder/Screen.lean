import Plunder.Action
import Plunder.Chart.Display
import Plunder.Round.Synchronizer
import Plunder.Settings

/-!
# The reporting screen

What the user sees of the round, and the chart that is shown once everybody has reported. The screen
owns the file of the chart: it opens a new one before it lets go of the old one, and a dismissed
screen holds none.

* `ScreenView`: everything that is shown
* `Screen.present`: a chart takes the place of the one before
* `Screen.release`: the screen lets go of its chart
-/

namespace Plunder

/-- What the screen shows in the place of the chart. -/
inductive ChartState where
  /-- The round is open, and there is no chart. -/
  | none
  /-- The chart has not come yet, or could not be had. -/
  | loading
  | ready
  /-- The chart is not drawn by the ledger; the charter is linked instead. -/
  | link
  deriving DecidableEq, Inhabited

def ChartState.text : ChartState → String
  | none => "none"
  | loading => "loading"
  | ready => "ready"
  | link => "link"

/-- Everything that the screen shows. -/
structure ScreenView where
  closed : Bool
  notice : Option String
  round : Nat
  outstanding : List Participant
  selected : Option Participant
  amount : Value
  error : Option String
  success : Option String
  reporting : Bool
  advancing : Bool
  canReport : Bool
  canSetSail : Bool
  chart : ChartState
  chartUri : Option String
  charterUrl : Option String

namespace ScreenView

def closedNotice : String := "The ledger is closed."

def ofClosed : ScreenView :=
  { closed := true, notice := some closedNotice, round := 0, outstanding := [], selected := none,
    amount := .text "", error := none, success := none, reporting := false, advancing := false,
    canReport := false, canSetSail := false, chart := .none, chartUri := none, charterUrl := none }

end ScreenView

/-- What the screen keeps besides the round and the actions. -/
structure Screen where
  settings : Settings
  /-- How often the screen has been dismissed. A chart that was asked for earlier is not shown. -/
  generation : Nat
  /-- The chart that is shown. -/
  handle : Option DisplayHandle

namespace Screen

/-- A screen that shows nothing yet. -/
def blank (settings : Settings) : Screen := ⟨settings, 0, none⟩

def closed (s : Screen) : Bool := !s.settings.ledgerOpen

def wantsChart (s : Screen) (new : RoundSnapshot) : Bool :=
  new.complete && s.settings.onchainChart

/-- The screen lets go of its chart, and the file is removed. -/
def release (s : Screen) (d : Desk) : Screen × Desk :=
  match s.handle with
  | some h => ({ s with handle := none }, (d.release h).1)
  | none => (s, d)

def chartNote (level : Level) (fs : Fields) : Note := .under level "reporting_screen" fs

/-- What comes of a chart that has arrived. -/
structure Arrival where
  screen : Screen
  desk : Desk
  notes : List Note
  /-- A fault that is no fault of the chart. -/
  fault : Option Fault

/-- The chart could not be fetched. -/
def fetchFailed (s : Screen) (d : Desk) (f : Fault) : Arrival :=
  let (s, d) := s.release d
  ⟨s, d, [chartNote .warning [("chart", .text "fetch_failed"), ("error", .text f.message)]], none⟩

/-- An artifact takes the place of the chart before. -/
def present (s : Screen) (d : Desk) (a : ChartArtifact) : Arrival :=
  match d.open? a with
  | .error f =>
    let (s, d) := s.release d
    ⟨s, d, [chartNote .warning [("chart", .text "display_failed"), ("error", .text f.message)]],
      none⟩
  -- The new file is there before the old one is removed.
  | .ok (opened, h) =>
    let (s, d) := s.release opened
    ⟨{ s with handle := some h }, d, [Desk.openNote h.path a,
      chartNote .info [("chart", .text "ready"), ("bytes", .nat a.data.length)]], none⟩

/-- A payload has arrived that was asked for in some generation of the screen. -/
def receive (s : Screen) (d : Desk) (generation : Nat) (payload : Value) : Arrival :=
  -- The screen was dismissed while the chart was on its way.
  if generation ≠ s.generation then
    ⟨s, d, [chartNote .debug [("chart", .text "stale_result_dropped")]], none⟩
  else
    match ChartArtifact.decode payload with
    | .error f => ⟨s, d, [], some f⟩
    | .ok (none, notes) =>
      let (s, d) := s.release d
      ⟨s, d, notes, none⟩
    | .ok (some a, notes) =>
      let arrival := s.present d a
      { arrival with notes := notes ++ arrival.notes }

def dismiss (s : Screen) (d : Desk) : Screen × Desk :=
  { s with generation := s.generation + 1 }.release d

end Screen
end Plunder
