import Plunder.Screen
import Plunder.Gateway

/-!
# The client

Everything that one client holds: its copy of the round, its actions, its screen with the files of
the charts, and what its listeners have heard.

* `Listener`, `Listener.hear`: who is told of a snapshot, and what becomes of it
* `Client.view`: what the screen shows
-/

namespace Plunder

/-- What a listener does when it is told of a snapshot. -/
inductive ListenerKind where
  /-- It notes the round. -/
  | plain
  /-- It lets others go first and then notes the round. -/
  | later
  /-- It fails at once. -/
  | broken
  /-- It lets others go first and then fails. -/
  | brokenLater
  /-- It leaves the list of listeners. -/
  | unlistenSelf
  deriving DecidableEq, Inhabited

/-- Who is told of new snapshots. -/
inductive Listener where
  /-- The screen, which looks after its chart. -/
  | screen
  /-- A listener with a name. -/
  | named (name : String) (kind : ListenerKind)
  deriving DecidableEq

namespace ListenerKind

def text : ListenerKind → String
  | plain => "plain"
  | later => "later"
  | broken => "broken"
  | brokenLater => "broken_later"
  | unlistenSelf => "unlisten_self"

/-- Whether the listener lets others go first. -/
def waits : ListenerKind → Bool
  | later | brokenLater => true
  | _ => false

/-- What the listener fails with, if it fails. -/
def fault? : ListenerKind → Option Fault
  | broken => some (.other .system "disk full")
  | brokenLater => some (.other .value "listener broke")
  | _ => none

end ListenerKind

/-- Whether a listener lets others go first. -/
def Listener.waits : Listener → Bool
  | .screen => false
  | .named _ kind => kind.waits

/-- What a named listener has heard. -/
structure Heard where
  listener : String
  /-- The round of the snapshot, or what the listener did instead. -/
  what : Value
  /-- Whether the snapshot was in place when it was heard of; none where the round is not noted. -/
  inPlace : Option Bool

/-- What a client does to its chart load when the round changes. -/
inductive Order where
  /-- The load in flight is called off. -/
  | callOff
  /-- A new load begins. -/
  | begin
  deriving DecidableEq

/-- Everything that one client holds. -/
structure Client where
  sync : Synchronizer Listener
  actions : Actions
  screen : Screen
  desk : Desk
  heard : List Heard
  /-- The number of the next nonce. -/
  nonce : Nat
  /-- When calls are issued. -/
  now : Moment

namespace Client

/-- A client that has not read anything yet. Its screen listens unless the ledger is closed to it. -/
def fresh (settings : Settings) (signer : Option Signer) (desk : Desk) (nonce : Nat) (now : Moment) :
    Client :=
  let idle : Synchronizer Listener := .idle
  { sync := if settings.ledgerOpen then idle.addListener .screen else idle
    actions := .idle signer, screen := .blank settings, desk, heard := [], nonce, now }

def bare (signer : Option Signer) (nonce : Nat) (now : Moment) : Client :=
  fresh { Settings.builtIn with ledgerOpen := false } signer (.empty false) nonce now

/-! ## Views -/

def canReport (c : Client) : Bool :=
  !c.screen.closed && !c.actions.isPending .haul && !c.sync.loading
    && !c.actions.feedback.amount.isVoid && !c.sync.outstanding.isEmpty && c.sync.selected.isSome

/-- Whether the user can start a new round. -/
def canSetSail (c : Client) : Bool :=
  !c.screen.closed && !c.actions.isPending .advance && !c.sync.loading && c.sync.complete

/-- What the screen shows in the place of the chart. -/
def chartState (c : Client) : ChartState :=
  if !c.sync.complete then .none
  else if !c.screen.settings.onchainChart then .link
  else if c.screen.handle.isSome then .ready
  else .loading

/-- What the screen shows. -/
def view (c : Client) : ScreenView :=
  if c.screen.closed then .ofClosed
  else
    { closed := false
      notice := none
      round := c.sync.round
      outstanding := c.sync.outstanding
      selected := c.sync.selected
      amount := c.actions.feedback.amount
      error := c.actions.feedback.error
      success := c.actions.feedback.success
      reporting := c.actions.isPending .haul
      advancing := c.actions.isPending .advance
      canReport := c.canReport
      canSetSail := c.canSetSail
      chart := c.chartState
      chartUri := if c.chartState = .ready then c.screen.handle.map (·.uri) else none
      charterUrl := if c.chartState = .link then some c.screen.settings.charterUrl else none }

/-! ## Listening -/

/-- The screen hears of a snapshot: the chart load in flight is called off, and a complete round
begins a new one. -/
def hearOnScreen (c : Client) (new : RoundSnapshot) : Client × List Order :=
  if c.screen.wantsChart new then (c, [.callOff, .begin])
  else
    -- A chart belongs to a complete round, and goes when the next one begins.
    let (screen, desk) := c.screen.release c.desk
    ({ c with screen, desk }, [.callOff])

/-- A named listener hears of the snapshot with a ticket. -/
def hearByName (c : Client) (name : String) (kind : ListenerKind) (ticket : Nat)
    (new : RoundSnapshot) : Client :=
  match kind with
  | .plain | .later =>
    { c with heard := c.heard ++ [⟨name, .nat new.round, some (c.sync.applied == ticket)⟩] }
  | .broken | .brokenLater => { c with heard := c.heard ++ [⟨name, .text "raises", none⟩] }
  | .unlistenSelf =>
    { c with
      heard := c.heard ++ [⟨name, .text "removes itself", none⟩]
      sync := c.sync.removeListener (.named name kind) }

/-- A listener hears of the snapshot with a ticket. -/
def hear (c : Client) (l : Listener) (ticket : Nat) (new : RoundSnapshot) :
    Client × List Note × List Order :=
  match l with
  | .screen =>
    let (c, orders) := c.hearOnScreen new
    (c, [], orders)
  | .named name kind =>
    (c.hearByName name kind ticket new,
      (kind.fault?.map fun f => Synchronizer.listenerNote kind.text f).toList, [])

end Client
end Plunder
