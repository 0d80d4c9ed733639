import Plunder.Proofs.Client.Course

/-!
# Errands

Everything that a client is asked for, apart from the actions that it launches itself: to read the
round, to show the screen, and to launch an action, of whose end it tells whoever asked.

Main statements:
- `begin_of_pending`, `begin_of_idle`: an action is refused or launched
- `begin_strolls`, `proceed_strolls`: nothing else that is asked for touches the actions
- `proceed_acting`: what whoever asked for an action is told of its end
-/

namespace Plunder

/-! ## Definitions -/

namespace Routine

/-- Whether a flow can be asked for. -/
def isOpen : Routine → Bool
  | .action .. | .chart => false
  | _ => true

/-- The kind of action that is asked for, if one is. -/
def asked? : Routine → Option ActionKind
  | .submitHaul .. | .report .. => some .haul
  | .advanceRound | .setSail => some .advance
  | _ => none

/-- Where the screen waits beneath the refresh or the action that it has called. -/
def outer : Routine → List Point
  | .load => [.loading]
  | .report .. => [.reporting .haul]
  | .setSail => [.reporting .advance]
  | _ => []

end Routine

namespace Client

/-- The selected participant, unless one is named. -/
def hauled (c : Client) (participant : Option String) : String :=
  participant.getD ((c.sync.selected.map (·.address)).getD "")

/-- What a client that is asked for something is to launch, if anything: the kind of the action, the
participant and the amount. -/
def invoked? (c : Client) : Routine → Option (ActionKind × String × Value)
  | .submitHaul participant amount =>
    some (.haul, c.hauled participant, amount.getD c.actions.feedback.amount)
  | .advanceRound => some (.advance, "", .null)
  | .report amount participant =>
    if c.screen.closed then none
    else some (.haul, c.hauled participant, amount.getD c.actions.feedback.amount)
  | .setSail => if c.screen.closed then none else some (.advance, "", .null)
  | _ => none

/-- The client once the amount is typed in with which a haul is reported from the screen. -/
def typing (c : Client) : Routine → Client
  | .report (some amount) _ => { c with actions := c.actions.setAmount amount }
  | _ => c

/-- What the screen makes of the fault that an action ended with: a failure is in the result. -/
def excuse (c : Client) (kind : ActionKind) (f : Fault) : Outcome :=
  if f.kind.isSubmission then .ok (.result (some (c.actions.result kind))) else .error f

/-- What whoever asked for an action is told of its end. -/
def told (c : Client) : Routine → Outcome → Outcome
  | .report .., .error f => c.excuse .haul f
  | .setSail, .error f => c.excuse .advance f
  | _, o => o

end Client

/-- The stages of an errand: a refresh, alone or for the screen; the wait of the screen for its
chart; and the wait for an action, alone or for the screen. -/
inductive Errand (r : Routine) : Stage → Prop where
  | due : Errand r .due
  | reading {ticket : Nat} (reads : r.asked? = none) :
      Errand r (.waiting .readings (.readings ticket :: r.outer))
  | telling {ticket : Nat} {new : RoundSnapshot} {current : Listener} {others : List Listener}
      (reads : r.asked? = none) :
      Errand r (.waiting .turn (.listening ticket new current others :: r.outer))
  | drawing (reads : r.asked? = none) : Errand r (.waiting .chart [.drawing])
  | acting {kind : ActionKind} {participant : String} {amount : Value}
      (asks : r.asked? = some kind) :
      Errand r (.waiting (.action kind participant amount) r.outer)
  | finished (o : Outcome) : Errand r (.finished o)

/-- A step of an errand that launches no action: it leaves the actions alone, and only the round is
read. -/
structure Turn.Strolls (r : Routine) (a : Actions) (t : Turn) : Prop where
  errand : Errand r t.move.stage
  same : a.Same t.client.actions
  quiet : t.move.launch? = none
  asks : ∀ need ∈ t.move.asks, need = .readings

theorem Turn.Strolls.congr {r : Routine} {a : Actions} {t t' : Turn} (h : Strolls r a t)
    (client : t'.client = t.client) (move : t'.move = t.move) : Strolls r a t' := by
  constructor
  case errand =>
    rw [move]
    exact h.errand
  case same =>
    rw [client]
    exact h.same
  case quiet =>
    rw [move]
    exact h.quiet
  case asks =>
    rw [move]
    exact h.asks

namespace Client

open Turn Actions

variable {c : Client} {r : Routine} {kind : ActionKind} {participant : String} {amount : Value}
  {a : Actions} {o : Outcome}

/-! ## Launching -/

theorem isPending_typing (c : Client) (r : Routine) :
    (c.typing r).actions.isPending = c.actions.isPending := by
  unfold typing
  split <;> rfl

theorem result_typing (c : Client) (r : Routine) (kind : ActionKind) :
    (c.typing r).actions.result kind = c.actions.result kind := by
  unfold typing
  split
  · cases kind <;> rfl
  · rfl

theorem typing_same (c : Client) (r : Routine) : c.actions.Same (c.typing r).actions :=
  fun kind => ⟨result_typing c r kind, congrFun (isPending_typing c r) kind⟩

theorem asked?_of_invoked (invoked : c.invoked? r = some (kind, participant, amount)) :
    r.asked? = some kind := by
  cases r with
  | report a p =>
    simp only [invoked?] at invoked
    split at invoked <;> cases invoked
    rfl
  | setSail =>
    simp only [invoked?] at invoked
    split at invoked <;> cases invoked
    rfl
  | _ =>
    cases invoked
    try rfl

/-- What is asked for launches its action, for the screen or alone. -/
private theorem begin_of_invoked (invoked : c.invoked? r = some (kind, participant, amount)) :
    (r.outer = [] ∧ c.begin r = (c.typing r).launch kind participant amount) ∨
      r.outer = [.reporting kind] ∧ c.begin r =
        ((c.typing r).launch kind participant amount).into (.reporting kind)
          (afterAction · kind) := by
  cases r with
  | submitHaul p a =>
    cases invoked
    exact .inl ⟨rfl, rfl⟩
  | advanceRound =>
    cases invoked
    exact .inl ⟨rfl, rfl⟩
  | report a p =>
    simp only [invoked?] at invoked
    split at invoked <;> cases invoked
    next hopen =>
    refine .inr ⟨rfl, ?_⟩
    simp only [begin, report, hopen]
    cases a <;> rfl
  | setSail =>
    simp only [invoked?] at invoked
    split at invoked <;> cases invoked
    next hopen =>
    refine .inr ⟨rfl, ?_⟩
    simp only [begin, setSail, hopen]
    rfl
  | _ => cases invoked

theorem told_alone (alone : r.outer = []) : c.told r o = o := by
  cases r <;> first | rfl | cases alone

theorem told_on_screen (onScreen : r.outer = [.reporting kind]) (f : Fault) :
    c.told r (.error f) = c.excuse kind f := by
  cases r <;> cases onScreen <;> rfl

/-- **What is asked for while an action of the kind is in flight** ends at once. -/
theorem begin_of_pending (invoked : c.invoked? r = some (kind, participant, amount))
    (pending : c.actions.isPending kind = true) :
    c.begin r = .finish (c.typing r) [] ((c.typing r).told r (.error (inProgress kind))) := by
  have hlaunch : (c.typing r).launch kind participant amount =
      .finish (c.typing r) [] (.error (inProgress kind)) := by
    rw [← isPending_typing c r] at pending
    simp only [launch, Actions.launch, pending, if_true]
  rcases begin_of_invoked invoked with ⟨houter, hbegin⟩ | ⟨houter, hbegin⟩
  · rw [hbegin, hlaunch, told_alone houter]
  · rw [hbegin, hlaunch, told_on_screen houter]
    rfl

/-- **What is asked for otherwise** launches its action. -/
theorem begin_of_idle (invoked : c.invoked? r = some (kind, participant, amount))
    (idle : c.actions.isPending kind = false) :
    ∃ note, c.begin r =
      ⟨{ c.typing r with actions := (c.typing r).actions.start kind }, [note], [],
        .wait (.action kind participant amount) r.outer⟩ := by
  obtain ⟨note, hlaunch⟩ : ∃ note, (c.typing r).launch kind participant amount =
      ⟨{ c.typing r with actions := (c.typing r).actions.start kind }, [note], [],
        .wait (.action kind participant amount) []⟩ := by
    rw [← isPending_typing c r] at idle
    simp only [launch, Actions.launch, idle, Bool.false_eq_true, if_false]
    exact ⟨_, rfl⟩
  refine ⟨note, ?_⟩
  rcases begin_of_invoked invoked with ⟨houter, hbegin⟩ | ⟨houter, hbegin⟩
  · rw [hbegin, hlaunch, houter]
  · rw [hbegin, hlaunch, houter]
    rfl

/-- **Whoever waits for an action is told of its end**, and that is all. -/
theorem proceed_acting (asks : r.asked? = some kind) :
    (c.proceed o r.outer).client = c ∧ (c.proceed o r.outer).orders = [] ∧
      (c.proceed o r.outer).move = .done (c.told r o) := by
  cases r with
  | submitHaul p a => exact ⟨rfl, rfl, rfl⟩
  | advanceRound => exact ⟨rfl, rfl, rfl⟩
  | report a p =>
    cases o with
    | ok reply => exact ⟨rfl, rfl, rfl⟩
    | error f =>
      simp only [Routine.outer, proceed, resume, afterAction, told, excuse]
      cases f.kind.isSubmission <;> exact ⟨rfl, rfl, rfl⟩
  | setSail =>
    cases o with
    | ok reply => exact ⟨rfl, rfl, rfl⟩
    | error f =>
      simp only [Routine.outer, proceed, resume, afterAction, told, excuse]
      cases f.kind.isSubmission <;> exact ⟨rfl, rfl, rfl⟩
  | _ => cases asks

/-! ## Strolling -/

theorem finish_strolls {notes : List Note} (same : a.Same c.actions) :
    Strolls r a (.finish c notes o) :=
  ⟨.finished o, same, rfl, nofun⟩

theorem setError_same (a : Actions) (error : Option String) : a.Same (a.setError error) := by
  intro k
  refine ⟨?_, rfl⟩
  cases k <;> rfl

/-- What is asked for leaves the actions alone, unless it is to launch one. -/
theorem begin_strolls (isOpen : r.isOpen = true) (uninvoked : c.invoked? r = none) :
    Strolls r c.actions (c.begin r) := by
  cases r with
  | refresh => exact ⟨.reading rfl, .refl _, rfl, fun _ => List.mem_singleton.1⟩
  | load =>
    simp only [begin, load]
    split
    · exact finish_strolls (.refl _)
    · exact ⟨.reading rfl, setError_same _ none, rfl, fun _ => List.mem_singleton.1⟩
  | report a p =>
    simp only [invoked?] at uninvoked
    split at uninvoked
    · next hclosed =>
      simp only [begin, report, hclosed, if_true]
      exact finish_strolls (.refl _)
    · cases uninvoked
  | setSail =>
    simp only [invoked?] at uninvoked
    split at uninvoked
    · next hclosed =>
      simp only [begin, setSail, hclosed, if_true]
      exact finish_strolls (.refl _)
    · cases uninvoked
  | submitHaul p a => cases uninvoked
  | advanceRound => cases uninvoked
  | action k p a => cases isOpen
  | chart => cases isOpen

/-- So does what asks for an action that is refused. -/
theorem begin_of_pending_strolls (invoked : c.invoked? r = some (kind, participant, amount))
    (pending : c.actions.isPending kind = true) : Strolls r c.actions (c.begin r) := by
  rw [begin_of_pending invoked pending]
  exact finish_strolls (typing_same c r)

theorem afterLoading_strolls (c : Client) (o : Outcome) :
    Strolls .load c.actions (c.afterLoading o) := by
  unfold afterLoading
  split
  · exact ⟨.drawing rfl, .refl _, rfl, nofun⟩
  · split
    · exact ⟨.drawing rfl, setError_same _ _, rfl, nofun⟩
    · exact finish_strolls (.refl _)

/-- A refresh goes on, alone or for the screen. -/
theorem proceed_refresh {p : Point} (refreshes : Refreshes c.actions (c.resume o p))
    (reads : r.asked? = none) : Strolls r c.actions (c.proceed o (p :: r.outer)) := by
  have hactions := refreshes.actions_eq
  rcases refreshes.move_eq with ⟨o₁, hmove⟩ | ⟨ticket, new, l, others, hmove⟩
  · -- The refresh has ended. Only the screen has called one, and goes on to its chart.
    obtain ⟨hclient, hmove'⟩ := proceed_of_done hmove r.outer
    rw [← hactions]
    have alone (houter : r.outer = []) :
        Strolls r (c.resume o p).client.actions (c.proceed o (p :: r.outer)) := by
      rw [houter] at hclient hmove' ⊢
      exact (finish_strolls (.refl _)).congr hclient hmove'
    cases r with
    | load =>
      obtain ⟨hclient', hmove''⟩ := proceed_singleton (c.resume o p).client o₁ .loading
      exact (afterLoading_strolls _ o₁).congr (hclient.trans hclient') (hmove'.trans hmove'')
    | report a p => cases reads
    | setSail => cases reads
    | _ => exact alone rfl
  · -- The refresh waits for a listener, and whoever has called it waits beneath.
    obtain ⟨hclient, hmove'⟩ := proceed_of_wait hmove r.outer
    constructor
    case errand =>
      rw [hmove']
      exact .telling reads
    case same =>
      rw [hclient, hactions]
      exact .refl _
    case quiet => rw [hmove']; rfl
    case asks => rw [hmove']; nofun

/-- **An errand goes on**, whatever comes back to it, and leaves the actions alone. -/
theorem proceed_strolls {need : Need} {ps : List Point} (h : Errand r (.waiting need ps))
    (o : Outcome) : Strolls r c.actions (c.proceed o ps) := by
  cases h with
  | @reading ticket reads => exact proceed_refresh (afterReadings_refreshes c ticket o) reads
  | @telling ticket new l others reads =>
    exact proceed_refresh (afterTurn_refreshes c ticket new l others o) reads
  | drawing =>
    obtain ⟨hclient, hmove⟩ := proceed_singleton c o .drawing
    refine Strolls.congr (t := c.afterChart o) ?_ hclient hmove
    unfold afterChart
    split <;> exact finish_strolls (.refl _)
  | acting asks =>
    obtain ⟨hclient, -, hmove⟩ := proceed_acting (c := c) (o := o) asks
    refine Strolls.congr (t := .finish c [] (c.told r o)) ?_ hclient hmove
    exact finish_strolls (.refl _)

end Client
end Plunder
