import Plunder.Console
import Plunder.Proofs.Client.Gallery
import Plunder.Proofs.Client.Messages

/-!
# Stints at the console

A stint is one command at the console that shows the screen, with everything that it waits for: the
screen loads, it carries out the action of the command, if there is one, and the command ends. The
gateway may answer each question with anything but a cancellation, and the chart loads go on beside
all this. Nobody but the screen listens, so that a refresh ends with its readings.

Main statements:
- `begin_steady`, `proceed_steady`: no flow waits for a listener
- `loading_read`, `loading_failed`: what the screen makes of its first readings
-/

namespace Plunder

/-! ## Definitions -/

/-- Whether a point is neither that of a refresh that waits for a listener nor that of a chart
load. -/
def Point.isSteady : Point → Bool
  | .listening .. | .chart _ => false
  | _ => true

/-- Whether a client shows its screen, and nobody else listens. -/
structure Client.Attended (c : Client) : Prop where
  opened : c.screen.closed = false
  listeners_eq : c.sync.listeners = [.screen]

/-- A step that leaves a client with its screen, and a flow that waits for no listener. -/
structure Turn.Steady (t : Turn) : Prop where
  attended : t.client.Attended
  points : ∀ ps, t.move.stack? = some ps → ∀ p ∈ ps, p.isSteady = true

namespace Console

/-- What a command is at. -/
inductive Post where
  /-- The screen loads. -/
  | loading
  /-- The screen carries out the action of the command. -/
  | acting
  /-- The command is over, and the screen dismissed. -/
  | ended (report : Report)

/-- A command at the console, and what it has to do with the gateway. -/
structure Stint where
  client : Client
  post : Post
  /-- The flow that the command waits for; in front of it the action that it has launched. -/
  flows : List (Routine × Stage)
  /-- The chart loads, in the order in which they were started. -/
  loads : List ChartLoad
  /-- What the flows have asked of the gateway, in order. -/
  asked : List Need
  /-- What came back, in the same order. -/
  answers : List Outcome

namespace Stint

/-- What happens in a stint. -/
inductive Event where
  /-- What is due is done. -/
  | turn
  /-- The gateway answers. -/
  | reply (o : Outcome)
  /-- A chart load has its turn, or something comes to it. -/
  | load (number : Nat) (o : Outcome)
  /-- From now on there is a directory to make files in, or there is none. -/
  | directory (present : Bool)

/-- A command that has not done anything yet. -/
def start (settings : Settings) (signer : Option Signer) (desk : Desk) (nonce : Nat)
    (now : Moment) : Stint :=
  ⟨.fresh settings signer desk nonce now, .loading, [(.load, .due)], [], [], []⟩

/-- A flow takes a step; an action that is launched stands in front of it. -/
def carry (s : Stint) (r : Routine) (beneath : List (Routine × Stage)) (t : Turn) : Stint :=
  { s with
    client := t.client
    flows := (t.move.launch?.map (·, Stage.due)).toList ++ (r, t.move.stage) :: beneath
    loads := t.orders.foldl (Gallery.order t.client.sync.applied) s.loads
    asked := s.asked ++ t.move.asks }

/-- The command is over: the screen is dismissed. -/
def leave (s : Stint) (report : Report) : Stint :=
  let (client, orders) := s.client.teardown
  { s with
    client, post := .ended report, flows := []
    loads := orders.foldl (Gallery.order client.sync.applied) s.loads }

/-- What a flow that waits for something hears when it has its turn. The wait for the chart ends once
the load ends that was started last. -/
def heard? (s : Stint) : Need → Option Outcome
  | .turn => some (.ok .nothing)
  | .chart => if s.loads.getLast?.all (·.stage.isOver) then some (.ok .nothing) else none
  | _ => none

/-- The step of a chart load with something that comes to it. One that was called off never begins;
if it has begun, it may hear of that or not. -/
def loadTurn? (c : Client) (l : ChartLoad) (o : Outcome) : Option Turn :=
  match l.stage with
  | .due => some (if l.calledOff then .finish c [] (.error .cancelled) else c.begin .chart)
  | .waiting _ ps => if o.isCancelled && !l.calledOff then none else some (c.proceed o ps)
  | .finished _ => none

/-- Something comes to a chart load. -/
def draw (s : Stint) (number : Nat) (o : Outcome) : Stint :=
  match s.loads[number]? with
  | some l =>
    match loadTurn? s.client l o with
    | some t =>
      { s with client := t.client, loads := s.loads.set number { l with stage := t.move.stage } }
    | none => s
  | none => s

/-- The gateway answers the flow in front, with anything but a cancellation. -/
def reply (s : Stint) (o : Outcome) : Stint :=
  match s.flows with
  | (r, .waiting need ps) :: beneath =>
    if need.isOutward && !o.isCancelled then
      { s.carry r beneath (s.client.proceed o ps) with answers := s.answers ++ [o] }
    else s
  | _ => s

variable (unwritable : String → Option Fault) (q : Request)

/-- The command goes on with what its flow has ended with. -/
def onward (s : Stint) (o : Outcome) : Stint :=
  match s.post with
  | .loading =>
    match Console.afterLoad s.client unwritable q (some o) with
    | .act client routine => { s with client, post := .acting, flows := [(routine, .due)] }
    | .leave report => s.leave report
  | .acting => s.leave (Console.afterAction s.client unwritable q (some o))
  | .ended _ => s

/-- What is due is done: the flow in front goes on, if it can; if it has ended, the flow beneath goes
on with its end, and the command if there is none. -/
def turn (s : Stint) : Stint :=
  match s.flows with
  | (r, .due) :: beneath => s.carry r beneath (s.client.begin r)
  | (r, .waiting need ps) :: beneath =>
    match s.heard? need with
    | some o => s.carry r beneath (s.client.proceed o ps)
    | none => s
  | (_, .finished o) :: (r, .waiting _ ps) :: beneath =>
    s.carry r beneath (s.client.proceed o ps)
  | [(_, .finished o)] => s.onward unwritable q o
  | _ => s

/-- The stint after an event. -/
def step (s : Stint) : Event → Stint
  | .turn => s.turn unwritable q
  | .reply o => s.reply o
  | .load number o => s.draw number o
  | .directory present => { s with client.desk := { s.client.desk with present } }

/-- The stint after several events. -/
def after (s : Stint) (es : List Event) : Stint := es.foldl (step unwritable q) s

end Stint
end Console

/-- Whatever takes a step has begun. -/
theorem Move.stage_ne_due (m : Move) : m.stage ≠ .due := by
  cases m <;> nofun

/-! ## Steps in which nobody waits for a listener -/

namespace Turn.Steady

variable {c : Client} {t : Turn}

theorem finish {notes : List Note} {o : Outcome} (h : c.Attended) : Steady (.finish c notes o) :=
  ⟨h, nofun⟩

theorem await {notes : List Note} {need : Need} {p : Point} (h : c.Attended)
    (hp : p.isSteady = true) : Steady (.await c notes need p) := by
  refine ⟨h, ?_⟩
  rintro _ ⟨⟩ q hq
  rw [List.mem_singleton.1 hq]
  exact hp

theorem after (h : Steady t) (notes : List Note) (orders : List Order) :
    Steady (t.after notes orders) := ⟨h.attended, h.points⟩

/-- Flows that called others wait beneath them. -/
theorem beneath {need : Need} {qs ps : List Point} (h : Steady t) (hm : t.move = .wait need qs)
    (hps : ∀ p ∈ ps, p.isSteady = true) : Steady { t with move := .wait need (qs ++ ps) } := by
  refine ⟨h.attended, ?_⟩
  rintro _ ⟨⟩ q hq
  rcases List.mem_append.1 hq with hq | hq
  · exact h.points qs (by rw [hm]; rfl) q hq
  · exact hps q hq

/-- A flow that called another waits beneath it, or goes on with what it ended with. -/
theorem into {p : Point} {resume : Client → Outcome → Turn} (h : Steady t)
    (hp : p.isSteady = true) (hresume : ∀ c o, c.Attended → Steady (resume c o)) :
    Steady (t.into p resume) := by
  unfold Turn.into
  cases hm : t.move with
  | wait need qs => exact h.beneath hm (by simpa using hp)
  | done o =>
    have hnext := hresume t.client o h.attended
    exact ⟨hnext.attended, hnext.points⟩

end Turn.Steady

namespace Client

open Turn

variable {c c' : Client} {o : Outcome} {ticket : Nat} {new : RoundSnapshot}

/-- Only the settings and the listeners matter. -/
theorem Attended.congr (h : c.Attended) (settings : c'.screen.settings = c.screen.settings)
    (listeners : c'.sync.listeners = c.sync.listeners) : c'.Attended := by
  refine ⟨?_, listeners.trans h.listeners_eq⟩
  rw [Screen.closed, settings]
  exact h.opened

/-- The screen that hears of a snapshot is still shown. -/
theorem hearOnScreen_settings (c : Client) (new : RoundSnapshot) :
    (c.hearOnScreen new).1.screen.settings = c.screen.settings := by
  unfold hearOnScreen
  split
  · rfl
  · simp only [Screen.release_screen]

theorem hearOnScreen_sync (c : Client) (new : RoundSnapshot) :
    (c.hearOnScreen new).1.sync = c.sync := by
  unfold hearOnScreen
  split <;> rfl

theorem hearOnScreen_actions (c : Client) (new : RoundSnapshot) :
    (c.hearOnScreen new).1.actions = c.actions := by
  unfold hearOnScreen
  split <;> rfl

/-- Where only the screen listens, it is told in one step. -/
theorem notify_screen (ticket : Nat) (new : RoundSnapshot) (c : Client) :
    (notify ticket new [.screen] c).client = (c.hearOnScreen new).1 ∧
      (notify ticket new [.screen] c).move = .done (.ok (.snapshot (some new))) := ⟨rfl, rfl⟩

/-- **The readings of the latest refresh** are put in place, and the screen hears of them. -/
theorem afterReadings_read (h : c.Attended) (ho : o.isCancelled = false)
    (read : Synchronizer.snapshotOf (readingsOf o) = .ok new) (latest : ticket = c.sync.issued) :
    (c.afterReadings ticket o).client =
        (({ c with sync := c.sync.abandon.apply ticket new } : Client).hearOnScreen new).1 ∧
      (c.afterReadings ticket o).move = .done (.ok (.snapshot (some new))) := by
  rw [afterReadings_of_latest ho read latest, h.listeners_eq]
  exact ⟨rfl, rfl⟩

theorem afterReadings_steady (h : c.Attended) (ticket : Nat) (o : Outcome) :
    Steady (c.afterReadings ticket o) := by
  -- The wait for the readings is called off, they fail, they make a snapshot, or they are stale.
  cases ho : o.isCancelled with
  | true =>
    rw [afterReadings_of_cancelled ho]
    exact .finish (h.congr rfl rfl)
  | false =>
    cases hs : Synchronizer.snapshotOf (readingsOf o) with
    | error f =>
      rw [afterReadings_of_failed ho hs]
      exact .finish (h.congr rfl rfl)
    | ok new =>
      by_cases ht : ticket = c.sync.issued
      · obtain ⟨hclient, hmove⟩ := afterReadings_read h ho hs ht
        constructor
        case attended =>
          rw [hclient]
          refine h.congr (hearOnScreen_settings _ new) ?_
          rw [hearOnScreen_sync]
          rfl
        case points =>
          rw [hmove]
          nofun
      · rw [afterReadings_of_stale ho hs ht]
        exact .finish (h.congr rfl rfl)

theorem failAction_steady {kind : ActionKind} {notes : List Note} {f : Fault} (h : c.Attended) :
    Steady (c.failAction kind notes f) := by
  unfold failAction
  split
  · exact .finish (h.congr rfl rfl)
  · exact .finish (h.congr rfl rfl)

theorem launch_steady (h : c.Attended) (kind : ActionKind) (participant : String)
    (amount : Value) : Steady (c.launch kind participant amount) := by
  unfold launch
  split
  · exact .finish h
  · refine ⟨h.congr rfl rfl, ?_⟩
    rintro _ ⟨⟩
    exact nofun

theorem afterAction_steady (h : c.Attended) (kind : ActionKind) (o : Outcome) :
    Steady (c.afterAction kind o) := by
  unfold afterAction
  split
  · exact .finish h
  · split
    · exact .finish h
    · exact .finish h

theorem launch_into_steady (h : c.Attended) (kind : ActionKind) (participant : String)
    (amount : Value) : Steady
      ((c.launch kind participant amount).into (.reporting kind) (afterAction · kind)) :=
  (launch_steady h kind participant amount).into rfl fun _ o h => afterAction_steady h kind o

theorem afterRefresh_steady (h : c.Attended) (kind : ActionKind) (o : Outcome) :
    Steady (c.afterRefresh kind o) := by
  unfold afterRefresh
  split
  · exact .finish (h.congr rfl rfl)
  · split
    · exact .finish (h.congr rfl rfl)
    · exact .finish (h.congr rfl rfl)

theorem refresh_steady (h : c.Attended) : Steady c.refresh :=
  .await (h.congr rfl rfl) rfl

theorem afterLoading_steady (h : c.Attended) (o : Outcome) : Steady (c.afterLoading o) := by
  unfold afterLoading
  split
  · exact .await h rfl
  · split
    · exact .await (h.congr rfl rfl) rfl
    · exact .finish h

/-- **The first step of a flow** that loads no chart. -/
theorem begin_steady (h : c.Attended) {r : Routine} (hr : r ≠ .chart) : Steady (c.begin r) := by
  cases r with
  | refresh => exact refresh_steady h
  | submitHaul participant amount => exact launch_steady h _ _ _
  | advanceRound => exact launch_steady h _ _ _
  | action kind participant amount =>
    simp only [begin, action]
    split
    · exact failAction_steady (h.congr rfl rfl)
    · exact .await (h.congr rfl rfl) rfl
  | load =>
    simp only [begin, load]
    split
    · exact .finish h
    · have h' : Attended { c with actions := c.actions.setError none } := h.congr rfl rfl
      exact (refresh_steady h').into rfl fun _ o h => afterLoading_steady h o
  | report amount participant =>
    simp only [begin, report]
    split
    · exact .finish h
    · cases amount with
      | none => exact launch_into_steady h _ _ _
      | some a =>
        have h' : Attended { c with actions := c.actions.setAmount a } := h.congr rfl rfl
        exact launch_into_steady h' _ _ _
  | setSail =>
    simp only [begin, setSail]
    split
    · exact .finish h
    · exact launch_into_steady h _ _ _
  | chart => exact (hr rfl).elim

/-- **A step from a point** of a flow that loads no chart. -/
theorem resume_steady (h : c.Attended) (o : Outcome) {p : Point} (hp : p.isSteady = true) :
    Steady (c.resume o p) := by
  cases p with
  | readings ticket => exact afterReadings_steady h ticket o
  | submission kind =>
    simp only [resume]
    unfold afterSubmission
    split
    · exact .await h rfl
    · exact failAction_steady h
    · exact failAction_steady h
  | finality kind =>
    simp only [resume]
    unfold afterFinality
    split
    · split
      · exact failAction_steady h
      · next hash _ =>
        have h' : Attended { c with actions := (c.actions.succeed kind hash).1 } := h.congr rfl rfl
        -- The refresh that follows a confirmed transaction runs within the action.
        exact ((refresh_steady h').into rfl fun _ o h => afterRefresh_steady h kind o).after _ _
    · exact failAction_steady h
    · exact failAction_steady h
  | followUp kind => exact afterRefresh_steady h kind o
  | reporting kind => exact afterAction_steady h kind o
  | loading => exact afterLoading_steady h o
  | drawing =>
    simp only [resume, afterChart]
    split
    · exact .finish h
    · exact .finish h
  | listening ticket new l others => cases hp
  | chart generation => cases hp

/-- **A step from a stack of points** of a flow that loads no chart. -/
theorem proceed_steady (h : c.Attended) {ps : List Point} (hps : ∀ p ∈ ps, p.isSteady = true)
    (o : Outcome) : Steady (c.proceed o ps) := by
  -- The induction is on the stack: a flow that ends hands its outcome to the one beneath.
  induction ps generalizing c o with
  | nil => exact .finish h
  | cons p ps ih =>
    rw [List.forall_mem_cons] at hps
    have hstep := resume_steady h o hps.1
    simp only [proceed]
    cases hm : (c.resume o p).move with
    | wait need qs => exact hstep.beneath hm hps.2
    | done o' => exact (ih hstep.attended hps.2 o').after _ _

/-! ## Loading the screen -/

/-- The screen begins to load. -/
theorem begin_load (h : c.Attended) :
    c.begin .load =
      ⟨{ c with actions := c.actions.setError none, sync := c.sync.issue.1 }, [], [],
        .wait .readings [.readings (c.sync.issued + 1), .loading]⟩ := by
  simp only [begin, load, h.opened, Bool.false_eq_true, if_false]
  rfl

/-- **The screen has read the round**, and waits for its chart. -/
theorem loading_read (h : c.Attended) (ho : o.isCancelled = false)
    (read : Synchronizer.snapshotOf (readingsOf o) = .ok new) (latest : ticket = c.sync.issued) :
    (c.proceed o [.readings ticket, .loading]).client =
        (({ c with sync := c.sync.abandon.apply ticket new } : Client).hearOnScreen new).1 ∧
      (c.proceed o [.readings ticket, .loading]).move = .wait .chart [.drawing] := by
  obtain ⟨hclient, hmove⟩ := afterReadings_read h ho read latest
  obtain ⟨hclient', hmove'⟩ := proceed_of_done (p := .readings ticket) hmove [.loading]
  obtain ⟨hclient'', hmove''⟩ := proceed_singleton (c.afterReadings ticket o).client
    (.ok (.snapshot (some new))) .loading
  exact ⟨hclient'.trans (hclient''.trans hclient), hmove'.trans hmove''⟩

/-- **The screen could not read the round**, and shows an error. -/
theorem loading_failed {f : Fault} (ho : o.isCancelled = false)
    (fails : Synchronizer.snapshotOf (readingsOf o) = .error f) :
    (c.proceed o [.readings ticket, .loading]).client =
        { c with sync := c.sync.abandon, actions := c.actions.setError (some Fault.syncText) } ∧
      (c.proceed o [.readings ticket, .loading]).move = .wait .chart [.drawing] := by
  have hresume : c.afterReadings ticket o = .finish _ _ _ := afterReadings_of_failed ho fails
  simp only [proceed, resume, hresume, Turn.finish]
  exact ⟨rfl, rfl⟩

end Client
end Plunder
