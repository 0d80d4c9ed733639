import Plunder.Proofs.Console.Stint

/-!
# How a command stands

A command goes through its phases one after the other: the screen loads, the action of the command is
set out, launched and told of, and the command ends. In each phase what the user is told agrees with
what was asked of the gateway and with what came back, and every step brings the end nearer.

Main statements:
- `Acting.begin`, `Acting.reply`: a step of the action of a command
- `select_cases`, `afterLoad_of_read`: how a command goes on once the round was read
- `code_of_finish`: how it ends
- `Phase.trail`: what a command can have asked of the gateway
- `Stands.turn`, `Stands.reply`: a step of a flow brings the end nearer
-/

namespace Plunder.Console

/-! ## Definitions -/

namespace Request

/-- Whether the command is one that carries out an action. -/
def acts (q : Request) : Bool :=
  match q.command with
  | .report .. | .sail => true
  | _ => false

/-- What the command sets out to do once the screen shows a round, if it sets out at all: the haul is
for whoever is named, who must be outstanding, and otherwise for the first who is. -/
def choice? (q : Request) (new : RoundSnapshot) : Option (ActionKind × String × Value) :=
  match q.command with
  | .report amount participant =>
    match some? participant with
    | none => some (.haul, (new.outstanding.head?.map (·.address)).getD "", .text amount)
    | some name => if new.isOutstanding name then some (.haul, name, .text amount) else none
  | .sail => some (.advance, "", .null)
  | _ => none

end Request

/-- Whether what came back makes a snapshot of the round. -/
def Reads (o : Outcome) (new : RoundSnapshot) : Prop :=
  Synchronizer.snapshotOf (Client.readingsOf o) = .ok new

/-- Whether everything that a command needs has gone well: the round was read, one call was submitted
and accepted, its receipt confirms, and the round was read again. -/
inductive Fulfilled : List Need → List Outcome → Prop where
  | intro {o o' : Outcome} {new new' : RoundSnapshot} {call : SignedCall} {h : TransactionHandle}
      {r : TransactionReceipt} (before : Reads o new) (confirmed : r.confirmed = true)
      (after : Reads o' new') :
      Fulfilled [.readings, .answer (.submit call), .answer (.finality h), .readings]
        [o, .ok (.answer (.handle h)), .ok (.answer (.receipt r)), o']

/-- What a command can have asked of the gateway, and what came back. Nothing is asked but to read the
round, until it was read and an action is chosen. -/
inductive Trail (q : Request) : List Need → List Outcome → Prop where
  | unasked : Trail q [] []
  | reading : Trail q [.readings] []
  | answered (o : Outcome) : Trail q [.readings] [o]
  | acting {o : Outcome} {new : RoundSnapshot} {kind : ActionKind} {participant : String}
      {amount : Value} {stage : Stage} {asked : List Need} {answers : List Outcome}
      {result : TransactionResult} (reads : Reads o new)
      (chosen : q.choice? new = some (kind, participant, amount))
      (course : Course kind participant amount stage asked answers result) :
      Trail q (.readings :: asked) (o :: answers)

namespace Stint

/-- What the screen has made of its first readings. -/
inductive Loaded (c : Client) (o : Outcome) : Prop where
  | read {new : RoundSnapshot} (reads : Reads o new) (snapshot : c.sync.snapshot = some new)
      (selected : c.sync.selected = new.outstanding.head?)
      (quiet : c.actions.feedback.error = none)
  | unread (fails : ∀ new, ¬Reads o new) (error : c.actions.feedback.error = some Fault.syncText)

/-- An action that goes on for a command, after some first readings. The user is told of no error
until it ends, and then of one unless the command is fulfilled. -/
structure Acting (kind : ActionKind) (participant : String) (amount : Value) (first : Outcome)
    (c : Client) (stage : Stage) (asked : List Need) (answers : List Outcome) : Prop where
  shown : c.Attended
  course : Course kind participant amount stage asked answers (c.actions.result kind)
  pending_eq : c.actions.isPending kind = !stage.isOver
  points : ∀ need ps, stage = .waiting need ps → ∀ p ∈ ps, p.isSteady = true
  quiet : stage.isOver = false → c.actions.feedback.error = none
  verdict : stage.isOver = true →
    (some? c.actions.feedback.error = none ↔ Fulfilled (.readings :: asked) (first :: answers))

/-- A step of the action of a command after which it goes on, or has ended, as it should. -/
def Sustains (kind : ActionKind) (participant : String) (amount : Value) (first : Outcome)
    (asked : List Need) (answers : List Outcome) (t : Turn) : Prop :=
  Acting kind participant amount first t.client t.move.stage (asked ++ t.move.asks) answers

/-- How a command goes on once the round was read: its action is set out as it is chosen, or nobody
of the given address is outstanding. -/
inductive GoesOn (q : Request) (new : RoundSnapshot) (c : Client) : Next → Prop where
  | act {c' : Client} {r : Routine} {kind : ActionKind} {participant : String} {amount : Value}
      (shown : c'.Attended) (actions_eq : c'.actions = c.actions)
      (chosen : q.choice? new = some (kind, participant, amount))
      (invoked : c'.invoked? r = some (kind, participant, amount))
      (onScreen : r.outer = [.reporting kind]) : GoesOn q new c (.act c' r)
  | leave {report : Report} (outcome : report.outcome = .ok 1) : GoesOn q new c (.leave report)

/-- The phases of a command. -/
inductive Phase (q : Request) (c : Client) :
    Post → List (Routine × Stage) → List Need → List Outcome → Prop where
  | due (shown : c.Attended) (idle : ∀ k, c.actions.isPending k = false) :
      Phase q c .loading [(.load, .due)] [] []
  | reading (shown : c.Attended) (idle : ∀ k, c.actions.isPending k = false)
      (quiet : c.actions.feedback.error = none) :
      Phase q c .loading [(.load, .waiting .readings [.readings c.sync.issued, .loading])]
        [.readings] []
  | drawing {o : Outcome} (shown : c.Attended) (idle : ∀ k, c.actions.isPending k = false)
      (loaded : Loaded c o) :
      Phase q c .loading [(.load, .waiting .chart [.drawing])] [.readings] [o]
  | loaded {o : Outcome} {v : ScreenView} (shown : c.Attended)
      (idle : ∀ k, c.actions.isPending k = false) (loaded : Loaded c o) (opened : v.closed = false)
      (error_eq : v.error = c.actions.feedback.error) :
      Phase q c .loading [(.load, .finished (.ok (.view v)))] [.readings] [o]
  | setOut {o : Outcome} {new : RoundSnapshot} {r : Routine} {kind : ActionKind}
      {participant : String} {amount : Value} (shown : c.Attended)
      (idle : ∀ k, c.actions.isPending k = false) (reads : Reads o new)
      (chosen : q.choice? new = some (kind, participant, amount))
      (invoked : c.invoked? r = some (kind, participant, amount))
      (onScreen : r.outer = [.reporting kind]) :
      Phase q c .acting [(r, .due)] [.readings] [o]
  | acting {o : Outcome} {new : RoundSnapshot} {r : Routine} {kind : ActionKind}
      {participant : String} {amount : Value} {stage : Stage} {asked : List Need}
      {answers : List Outcome} (reads : Reads o new)
      (chosen : q.choice? new = some (kind, participant, amount))
      (asks : r.asked? = some kind) (onScreen : r.outer = [.reporting kind])
      (acting : Acting kind participant amount o c stage asked answers) :
      Phase q c .acting
        [(.action kind participant amount, stage),
          (r, .waiting (.action kind participant amount) r.outer)]
        (.readings :: asked) (o :: answers)
  | acted {r : Routine} {reply : Reply} {asked : List Need} {answers : List Outcome}
      (shown : c.Attended) (trail : Trail q asked answers)
      (verdict : some? c.actions.feedback.error = none ↔ Fulfilled asked answers) :
      Phase q c .acting [(r, .finished (.ok reply))] asked answers
  | ended {report : Report} {asked : List Need} {answers : List Outcome}
      (trail : Trail q asked answers)
      (code : report.outcome = .ok 0 ∧ Fulfilled asked answers ∨
        report.outcome = .ok 1 ∧ ¬Fulfilled asked answers) :
      Phase q c (.ended report) [] asked answers

/-- How many steps a flow may still take. -/
def stepsLeft : Stage → Nat
  | .due => 5
  | .waiting (.answer (.submit _)) _ => 4
  | .waiting (.answer _) _ => 3
  | .waiting .readings _ => 2
  | .waiting _ _ => 1
  | .finished _ => 0

/-- How many steps the flows of a command may still take: the screen loads, its action is set out and
carried out, and the screen is told of its end. -/
def rank : List (Routine × Stage) → Nat
  | [] => 0
  | (.load, stage) :: _ => stepsLeft stage + 9
  | (.action .., stage) :: _ => stepsLeft stage + 2
  | (_, .due) :: _ => 8
  | _ => 1

/-- Whether the flow in front has asked the gateway for something. -/
def IsAsking (s : Stint) : Prop :=
  ∃ r need ps beneath, s.flows = (r, .waiting need ps) :: beneath ∧ need.isOutward = true

/-- What a command waits for while nothing is due. -/
inductive Waits (s : Stint) : Prop where
  | answer (asking : s.IsAsking)
  | load {l : ChartLoad} (last : s.loads.getLast? = some l) (under : l.stage.isOver = false)
  | ended {report : Report} (post : s.post = .ended report)

/-- How a command stands. -/
def Stands (q : Request) (s : Stint) : Prop :=
  Phase q s.client s.post s.flows s.asked s.answers

/-! ## The action of a command -/

open Client Turn

namespace Acting

variable {kind : ActionKind} {participant : String} {amount : Value} {o first : Outcome}
  {c : Client} {t : Turn} {need : Need} {ps : List Point} {asked : List Need}
  {answers : List Outcome} {m : Messages}

/-- Whatever an action does in a step, what remains to be seen is what the user is told. -/
private theorem of_step (pursues : t.Pursues kind participant amount c.actions asked answers)
    (steady : t.Steady)
    (quiet : t.move.stage.isOver = false → t.client.actions.feedback.error = none)
    (verdict : t.move.stage.isOver = true → (some? t.client.actions.feedback.error = none ↔
      Fulfilled (.readings :: (asked ++ t.move.asks)) (first :: answers))) :
    Sustains kind participant amount first asked answers t where
  shown := steady.attended
  course := pursues.course
  pending_eq := pursues.pending_eq
  points need ps hstage := by
    apply steady.points
    cases hmove : t.move with
    | wait need' ps' =>
      rw [hmove] at hstage
      cases hstage
      rfl
    | done o =>
      rw [hmove] at hstage
      cases hstage
  quiet := quiet
  verdict := verdict

/-- An action fails: the user is told why, and something has not gone well. -/
theorem of_fails (pursues : t.Pursues kind participant amount c.actions asked answers)
    (steady : t.Steady) (fails : t.Fails kind) :
    Sustains kind participant amount first asked answers t := by
  obtain ⟨g, hmove, hmessages⟩ := fails
  have herror : t.client.actions.feedback.error = some (Actions.reasonOf kind g) :=
    congrArg Messages.error hmessages
  refine of_step pursues steady (fun hover => ?_) fun _ => ?_
  · rw [hmove] at hover
    cases hover
  · have hcourse := pursues.course
    rw [herror]
    constructor
    · -- A reason is never empty.
      intro hnone
      exact absurd hnone (by simp [some?, Actions.reasonOf_ne])
    · intro hfulfilled
      rw [hmove] at hcourse hfulfilled
      generalize t.client.actions.result kind = result at hcourse
      generalize asked ++ Move.asks (.done (.error g)) = asked' at hcourse hfulfilled
      -- What was asked for a failed action is too little.
      cases hcourse with
      | failed failing _ _ => cases failing <;> cases hfulfilled

/-- An action goes on, and the user is told of nothing yet. -/
theorem of_endures (pursues : t.Pursues kind participant amount c.actions asked answers)
    (steady : t.Steady) (endures : t.Endures m) (quiet : m.error = none)
    (early : answers.length < 3) : Sustains kind participant amount first asked answers t := by
  have herror : t.client.actions.feedback.error = none := by
    rw [← quiet, ← endures.messages_eq]
    rfl
  refine of_step pursues steady (fun _ => herror) fun hover => ?_
  -- An action that has ended has failed, or has three answers.
  have hcourse := pursues.course
  cases hmove : t.move with
  | wait need ps =>
    rw [hmove] at hover
    cases hover
  | done o =>
    rw [hmove] at hcourse
    generalize t.client.actions.result kind = result at hcourse
    generalize asked ++ Move.asks (.done o) = asked' at hcourse
    cases hcourse with
    | failed _ _ _ => exact (endures.unfailed _ hmove).elim
    | done _ _ => simp at early

/-- An action ends with the refresh that follows it, and the user is told of an error if that has
failed. -/
theorem of_reread {handle receipt : Outcome} {new : RoundSnapshot} (reads : Reads first new)
    (pursues : t.Pursues kind participant amount c.actions asked [handle, receipt, o])
    (steady : t.Steady) (endures : t.Endures m)
    (verdict : some? m.error = none ↔ ∃ new', Reads o new') :
    Sustains kind participant amount first asked [handle, receipt, o] t := by
  have herror : t.client.actions.feedback.error = m.error := by
    rw [← endures.messages_eq]
    rfl
  have hcourse := pursues.course
  cases hmove : t.move with
  | wait need ps =>
    -- Nobody lets others go first, so that the refresh waits for no listener.
    rw [hmove] at hcourse
    generalize t.client.actions.result kind = result at hcourse
    generalize asked ++ Move.asks (.wait need ps) = asked' at hcourse
    generalize hanswers : [handle, receipt, o] = answers at hcourse
    cases hcourse with
    | telling _ _ => cases steady.points _ (by rw [hmove]; rfl) _ List.mem_cons_self
    | _ => cases hanswers
  | done o' =>
    refine of_step pursues steady (fun hover => ?_) fun _ => ?_
    · rw [hmove] at hover
      cases hover
    · rw [herror, verdict]
      rw [hmove] at hcourse ⊢
      generalize t.client.actions.result kind = result at hcourse
      generalize asked ++ Move.asks (.done o') = asked' at hcourse ⊢
      cases hcourse with
      | failed failing _ _ => cases failing
      | done signed confirmed =>
        constructor
        · rintro ⟨new', hread⟩
          exact .intro reads confirmed hread
        · rintro ⟨-, -, hread⟩
          exact ⟨_, hread⟩

/-- **The action of a command has its first turn.** -/
theorem begin (h : Acting kind participant amount first c .due asked answers) :
    Sustains kind participant amount first asked answers
        (c.begin (.action kind participant amount)) ∧
      (c.begin (.action kind participant amount)).move.launch? = none := by
  have hpursues := h.course.begin h.pending_eq
  have hsteady := begin_steady h.shown (r := .action kind participant amount) nofun
  refine ⟨?_, hpursues.quiet⟩
  rcases action_cases c kind participant amount with hfails | hendures
  · exact of_fails hpursues hsteady hfails
  · refine of_endures hpursues hsteady hendures (h.quiet rfl) ?_
    have hcourse := h.course
    generalize c.actions.result kind = result at hcourse
    cases hcourse
    simp

/-- **The gateway answers the action of a command.** -/
theorem reply {new : RoundSnapshot} (reads : Reads first new)
    (h : Acting kind participant amount first c (.waiting need ps) asked answers)
    (outward : need.isOutward = true) (ho : o.isCancelled = false) :
    Sustains kind participant amount first asked (answers ++ [o]) (c.proceed o ps) ∧
      (c.proceed o ps).move.launch? = none := by
  have hpursues := h.course.reply h.pending_eq outward ho
  have hsteady := proceed_steady h.shown (h.points need ps rfl) o
  refine ⟨?_, hpursues.quiet⟩
  have hquiet : c.actions.messages.error = none := h.quiet rfl
  have hcourse := h.course
  generalize c.actions.result kind = result at hcourse
  cases hcourse with
  | submitting signed =>
    obtain ⟨hclient, hmove⟩ := proceed_singleton c o (.submission kind)
    have hcases : (c.afterSubmission kind o).Fails kind ∨
        (c.afterSubmission kind o).Endures c.actions.messages := afterSubmission_cases ho
    rcases hcases with hfails | hendures
    · exact of_fails hpursues hsteady (hfails.congr hclient hmove)
    · exact of_endures hpursues hsteady (hendures.congr hclient hmove) hquiet (by simp)
  | awaiting signed =>
    obtain ⟨hclient, hmove⟩ := proceed_singleton c o (.finality kind)
    by_cases hconfirmed : ∃ r : TransactionReceipt, r.confirmed = true ∧
        o = .ok (.answer (.receipt r))
    · obtain ⟨r, hr, rfl⟩ := hconfirmed
      have hendures : (c.afterFinality kind (.ok (.answer (.receipt r)))).Endures
          ⟨c.actions.messages.error, some (Actions.successText kind)⟩ :=
        afterFinality_of_confirmed hr
      exact of_endures hpursues hsteady (hendures.congr hclient hmove) hquiet (by simp)
    · have hfails : (c.afterFinality kind o).Fails kind :=
        afterFinality_of_unconfirmed ho fun r hr heq => hconfirmed ⟨r, hr, heq⟩
      exact of_fails hpursues hsteady (hfails.congr hclient hmove)
  | @reading call handle r ticket signed confirmed =>
    cases hs : Synchronizer.snapshotOf (readingsOf o) with
    | error g =>
      refine of_reread reads hpursues hsteady (proceed_followUp_of_failed ho hs) ⟨nofun, ?_⟩
      rintro ⟨new', hread⟩
      cases hs.symm.trans hread
    | ok new' =>
      refine of_reread reads hpursues hsteady (proceed_followUp_of_unfailed
        (afterReadings_refreshes c ticket o) (move_readings_of_read ho hs)) ?_
      rw [hquiet]
      exact ⟨fun _ => ⟨new', hs⟩, fun _ => rfl⟩
  | telling signed confirmed => cases outward

end Acting

/-! ## The end of a command -/

section Ends

variable {unwritable : String → Option Fault} {q : Request} {c : Client} {v : ScreenView}
  {o : Outcome}

/-- Where no copy of the chart is wanted, the exit code tells whether an error is shown. -/
theorem finish_outcome (copyless : some? q.chartOut = none) :
    (finish c unwritable q.chartOut v).outcome =
      if some? v.error = none then .ok 0 else .ok 1 := by
  have hcopy : copyChart c unwritable q.chartOut v = .ok none := by
    rw [copyChart, copyless]
  rw [finish, hcopy]
  show Except.ok (codeOf v.error) = _
  rw [codeOf]
  cases some? v.error <;> rfl

theorem code_of_finish (copyless : some? q.chartOut = none) {asked : List Need}
    {answers : List Outcome} (verdict : some? v.error = none ↔ Fulfilled asked answers) :
    (finish c unwritable q.chartOut v).outcome = .ok 0 ∧ Fulfilled asked answers ∨
      (finish c unwritable q.chartOut v).outcome = .ok 1 ∧ ¬Fulfilled asked answers := by
  rw [finish_outcome copyless]
  by_cases herror : some? v.error = none
  · exact .inl ⟨if_pos herror, verdict.1 herror⟩
  · exact .inr ⟨if_neg herror, fun hfulfilled => herror (verdict.2 hfulfilled)⟩

theorem view_of_attended (shown : c.Attended) :
    c.view.closed = false ∧ c.view.error = c.actions.feedback.error := by
  simp only [Client.view, shown.opened, Bool.false_eq_true, if_false, and_self]

/-- Nothing is fulfilled while no action has begun. -/
theorem not_fulfilled_read : ¬Fulfilled [.readings] [o] := nofun

/-- Whoever is found is outstanding, and has the address. -/
theorem find_cases (new : RoundSnapshot) (address : String) :
    (∃ p, new.find address = some p ∧ p.address = address ∧ new.isOutstanding address = true) ∨
      new.find address = none ∧ new.isOutstanding address = false := by
  unfold RoundSnapshot.find RoundSnapshot.isOutstanding
  cases hfind : new.outstanding.find? (·.address == address) with
  | none =>
    rw [List.find?_eq_none] at hfind
    refine .inr ⟨rfl, ?_⟩
    simpa using hfind
  | some p =>
    have haddress := List.find?_some hfind
    exact .inl ⟨p, rfl, by simpa using haddress,
      List.any_eq_true.2 ⟨p, List.mem_of_find?_eq_some hfind, haddress⟩⟩

/-- Whoever is named is selected, unless nobody of that address is outstanding. -/
theorem select_cases {new : RoundSnapshot} (snapshot : c.sync.snapshot = some new)
    (participant : Option String) :
    (some? participant = none ∧ select c participant = .ok c) ∨
      (∃ p, some? participant = some p.address ∧ new.isOutstanding p.address = true ∧
        select c participant = .ok { c with sync := { c.sync with selected := some p } }) ∨
      ∃ f, select c participant = .error f := by
  cases hname : some? participant with
  | none => exact .inl ⟨rfl, by rw [select, hname]⟩
  | some name =>
    have hselect :
        select c participant = (c.sync.select name).map fun s => { c with sync := s.1 } := by
      rw [select, hname]
    have hfound : c.sync.snapshot.bind (·.find name) = new.find name := by
      rw [snapshot]
      rfl
    rw [hselect, Synchronizer.select, hfound]
    rcases find_cases new name with ⟨p, hfind, rfl, houtstanding⟩ | ⟨hfind, -⟩
    · rw [hfind]
      exact .inr (.inl ⟨p, rfl, houtstanding, rfl⟩)
    · rw [hfind]
      exact .inr (.inr ⟨_, rfl⟩)

variable (unwritable) in
/-- **How a command goes on once the round was read.** -/
theorem afterLoad_of_read {new : RoundSnapshot} (acts : q.acts = true) (shown : c.Attended)
    (snapshot : c.sync.snapshot = some new) (selected : c.sync.selected = new.outstanding.head?)
    (opened : v.closed = false) (quiet : v.error = none) :
    GoesOn q new c (afterLoad c unwritable q (some (.ok (.view v)))) := by
  have hopen : isOpen v = true := by simp [isOpen, opened, quiet, some?]
  have hclosed : c.screen.closed = false := shown.opened
  simp only [afterLoad, hopen, Bool.not_true, Bool.false_eq_true, if_false]
  rw [Request.acts] at acts
  cases hcommand : q.command with
  | report amount participant =>
    rcases select_cases snapshot participant with ⟨hname, hselect⟩ |
      ⟨p, hname, houtstanding, hselect⟩ | ⟨f, hselect⟩
    · -- Nobody is named: the first who is outstanding has been selected already.
      have hchosen : q.choice? new =
          some (.haul, (new.outstanding.head?.map (·.address)).getD "", .text amount) := by
        simp only [Request.choice?, hcommand, hname]
      have hinvoked : c.invoked? (.report (some (.text amount)) none) =
          some (.haul, (new.outstanding.head?.map (·.address)).getD "", .text amount) := by
        simp only [invoked?, hclosed, hauled, selected]
        rfl
      simp only [hselect]
      exact .act shown rfl hchosen hinvoked rfl
    · have hchosen : q.choice? new = some (.haul, p.address, .text amount) := by
        simp only [Request.choice?, hcommand, hname, houtstanding, if_true]
      simp only [hselect]
      refine .act (shown.congr rfl rfl) rfl hchosen ?_ rfl
      simp only [invoked?, hclosed]
      rfl
    · simp only [hselect]
      exact .leave rfl
  | sail =>
    have hchosen : q.choice? new = some (.advance, "", .null) := by
      simp only [Request.choice?, hcommand]
    refine .act shown rfl hchosen ?_ rfl
    simp only [invoked?, hclosed]
    rfl
  | _ =>
    rw [hcommand] at acts
    cases acts

end Ends

/-! ## Loading -/

section Loading

variable {c : Client} {o : Outcome}

/-- **The gateway answers the screen that loads**, which then waits for its chart. -/
theorem loaded_of_reply (shown : c.Attended) (quiet : c.actions.feedback.error = none)
    (ho : o.isCancelled = false) :
    Loaded (c.proceed o [.readings c.sync.issued, .loading]).client o ∧
      (c.proceed o [.readings c.sync.issued, .loading]).client.actions.isPending =
        c.actions.isPending ∧
      (c.proceed o [.readings c.sync.issued, .loading]).move = .wait .chart [.drawing] := by
  cases hs : Synchronizer.snapshotOf (readingsOf o) with
  | ok new =>
    obtain ⟨hclient, hmove⟩ := loading_read shown ho hs rfl
    rw [hclient]
    refine ⟨.read hs ?_ ?_ ?_, ?_, hmove⟩
    · rw [hearOnScreen_sync]
      rfl
    · rw [hearOnScreen_sync]
      rfl
    · rw [hearOnScreen_actions]
      exact quiet
    · rw [hearOnScreen_actions]
  | error f =>
    obtain ⟨hclient, hmove⟩ := loading_failed (c := c) ho hs
    rw [hclient]
    refine ⟨.unread (fun new hread => ?_) rfl, rfl, hmove⟩
    cases hs.symm.trans hread

end Loading

/-! ## Phases -/

namespace Phase

variable {q : Request} {c : Client} {post : Post} {flows : List (Routine × Stage)}
  {asked : List Need} {answers : List Outcome}

theorem trail (h : Phase q c post flows asked answers) : Trail q asked answers := by
  cases h with
  | due => exact .unasked
  | reading => exact .reading
  | drawing => exact .answered _
  | loaded => exact .answered _
  | setOut => exact .answered _
  | acting reads chosen _ _ acting => exact .acting reads chosen acting.course
  | acted _ trail _ => exact trail
  | ended trail _ => exact trail

/-- Only the copy of the round, the actions and the settings matter. -/
theorem congr {c' : Client} (h : Phase q c post flows asked answers) (sync : c'.sync = c.sync)
    (actions : c'.actions = c.actions) (settings : c'.screen.settings = c.screen.settings) :
    Phase q c' post flows asked answers := by
  have attended (shown : c.Attended) : c'.Attended :=
    shown.congr settings (congrArg Synchronizer.listeners sync)
  have hclosed : c'.screen.closed = c.screen.closed := by rw [Screen.closed, settings, Screen.closed]
  have still {o : Outcome} (loaded : Loaded c o) : Loaded c' o := by
    cases loaded with
    | read reads snapshot selected quiet =>
      exact .read reads (sync ▸ snapshot) (sync ▸ selected) (actions ▸ quiet)
    | unread fails error => exact .unread fails (actions ▸ error)
  cases h with
  | due shown idle => exact .due (attended shown) (actions ▸ idle)
  | reading shown idle quiet =>
    rw [← sync]
    exact .reading (attended shown) (actions ▸ idle) (actions ▸ quiet)
  | drawing shown idle loaded => exact .drawing (attended shown) (actions ▸ idle) (still loaded)
  | loaded shown idle loaded opened error_eq =>
    exact .loaded (attended shown) (actions ▸ idle) (still loaded) opened (actions ▸ error_eq)
  | @setOut o new r kind participant amount shown idle reads chosen invoked onScreen =>
    refine .setOut (attended shown) (actions ▸ idle) reads chosen ?_ onScreen
    rw [← invoked]
    cases r <;> simp only [invoked?, hauled, sync, actions, hclosed]
  | acting reads chosen asks onScreen acting =>
    exact .acting reads chosen asks onScreen ⟨attended acting.shown, actions ▸ acting.course,
      actions ▸ acting.pending_eq, acting.points, actions ▸ acting.quiet,
      actions ▸ acting.verdict⟩
  | acted shown trail verdict => exact .acted (attended shown) trail (actions ▸ verdict)
  | ended trail code => exact .ended trail code

end Phase

/-! ## Steps -/

section Steps

variable {unwritable : String → Option Fault} {q : Request} {s : Stint} {o : Outcome}

/-- Whether a step of its flows has brought the end of a command nearer. -/
structure Nears (q : Request) (s s' : Stint) : Prop where
  stands : Stands q s'
  rank_lt : rank s'.flows < rank s.flows

/-- A flow takes a step, and the end is nearer. -/
private theorem nears_carry {c : Client} {post : Post} {flows : List (Routine × Stage)}
    {loads : List ChartLoad} {asked : List Need} {answers answers' : List Outcome} {r : Routine}
    {beneath : List (Routine × Stage)} {t : Turn} {c' : Client} {m : Move} (client : t.client = c')
    (move : t.move = m)
    (phase : Phase q c' post ((m.launch?.map (·, Stage.due)).toList ++ (r, m.stage) :: beneath)
      (asked ++ m.asks) answers')
    (lt : rank ((m.launch?.map (·, Stage.due)).toList ++ (r, m.stage) :: beneath) < rank flows) :
    Nears q ⟨c, post, flows, loads, asked, answers⟩
      { (Stint.carry ⟨c, post, flows, loads, asked, answers⟩ r beneath t) with
        answers := answers' } := by
  subst client move
  exact ⟨phase, lt⟩

/-- The command ends, and tells the truth. -/
private theorem nears_leave {report : Report} (trail : Trail q s.asked s.answers)
    (code : report.outcome = .ok 0 ∧ Fulfilled s.asked s.answers ∨
      report.outcome = .ok 1 ∧ ¬Fulfilled s.asked s.answers) (busy : 0 < rank s.flows) :
    Nears q s (s.leave report) :=
  ⟨.ended trail code, busy⟩

/-- The screen sets an action out, and hears of its end. -/
theorem rank_onScreen {r : Routine} {kind : ActionKind} (onScreen : r.outer = [.reporting kind]) :
    rank [(r, .due)] = 8 ∧ ∀ o, rank [(r, .finished o)] = 1 := by
  cases r with
  | report a p => exact ⟨rfl, fun _ => rfl⟩
  | setSail => exact ⟨rfl, fun _ => rfl⟩
  | _ => cases onScreen

/-- The end of its action, of which the screen is told, is no fault of the screen. -/
theorem exists_told {c : Client} {r : Routine} {kind : ActionKind} {participant : String}
    {amount : Value} {asked : List Need} {answers : List Outcome} {result : TransactionResult}
    (onScreen : r.outer = [.reporting kind])
    (course : Course kind participant amount (.finished o) asked answers result) :
    ∃ reply, c.told r o = .ok reply := by
  cases course with
  | @failed _ _ f _ _ submission _ =>
    rw [told_on_screen onScreen, excuse, if_pos submission]
    exact ⟨_, rfl⟩
  | done _ _ =>
    cases r with
    | report a p => exact ⟨_, rfl⟩
    | setSail => exact ⟨_, rfl⟩
    | _ => cases onScreen

theorem rank_pos (f : Routine × Stage) (flows : List (Routine × Stage)) :
    0 < rank (f :: flows) := by
  obtain ⟨r, stage⟩ := f
  cases r <;> cases stage <;> exact Nat.succ_pos _

/-- A step of the action of a command brings the end nearer. -/
private theorem nears_acting {first : Outcome} {new : RoundSnapshot} {c : Client} {r : Routine}
    {kind : ActionKind} {participant : String} {amount : Value} {stage : Stage}
    {loads : List ChartLoad} {asked : List Need} {answers answers' : List Outcome} {t : Turn}
    (reads : Reads first new) (chosen : q.choice? new = some (kind, participant, amount))
    (asks : r.asked? = some kind) (onScreen : r.outer = [.reporting kind])
    (acting : Sustains kind participant amount first asked answers' t)
    (quiet : t.move.launch? = none) (lt : stepsLeft t.move.stage < stepsLeft stage) :
    let s : Stint := ⟨c, .acting, [(.action kind participant amount, stage),
      (r, .waiting (.action kind participant amount) r.outer)], loads, .readings :: asked,
      first :: answers⟩
    Nears q s
      { (s.carry (.action kind participant amount)
          [(r, .waiting (.action kind participant amount) r.outer)] t) with
        answers := first :: answers' } := by
  refine nears_carry rfl rfl ?_ ?_
  · rw [quiet]
    exact .acting reads chosen asks onScreen acting
  · rw [quiet]
    exact Nat.add_lt_add_right lt 2

section Courses

variable {kind : ActionKind} {participant : String} {amount : Value} {stage : Stage} {need : Need}
  {ps : List Point} {asked : List Need} {answers : List Outcome} {result : TransactionResult}

/-- With each answer an action has one step less to take. -/
theorem stepsLeft_le (course : Course kind participant amount stage asked answers result)
    (begun : stage ≠ .due) : stepsLeft stage + answers.length ≤ 4 := by
  cases course with
  | due => exact (begun rfl).elim
  | failed failing _ _ => cases failing <;> simp [stepsLeft]
  | _ => simp [stepsLeft]

theorem stepsLeft_of_outward
    (course : Course kind participant amount (.waiting need ps) asked answers result)
    (outward : need.isOutward = true) :
    stepsLeft (.waiting need ps) + answers.length = 4 := by
  cases course with
  | telling => cases outward
  | _ => rfl

end Courses

variable (unwritable) in
/-- **What is due is done**, if anything is. -/
theorem Stands.turn (h : Stands q s) (acts : q.acts = true) (copyless : some? q.chartOut = none) :
    s.turn unwritable q = s ∧ s.Waits ∨ Nears q s (s.turn unwritable q) := by
  obtain ⟨c, post, flows, loads, asked, answers⟩ := s
  change Phase q c post flows asked answers at h
  cases h with
  | due shown idle =>
    right
    have hbegin := begin_load shown
    refine nears_carry (congrArg Turn.client hbegin) (congrArg Turn.move hbegin) ?_ ?_
    · exact .reading (shown.congr rfl rfl) idle rfl
    · show 2 + 9 < 5 + 9
      omega
  | reading shown idle quiet => exact .inl ⟨rfl, .answer ⟨_, _, _, _, rfl, rfl⟩⟩
  | @drawing o shown idle loaded =>
    obtain ⟨hclient, hmove⟩ := proceed_singleton c (.ok .nothing) .drawing
    obtain ⟨hopened, herror⟩ := view_of_attended shown
    simp only [Stint.turn, heard?]
    -- The screen waits for the load that was started last, if there is one.
    by_cases hover : loads.getLast?.all (·.stage.isOver) = true
    · right
      rw [if_pos hover]
      refine nears_carry hclient hmove ?_ ?_
      · exact .loaded shown idle loaded hopened herror
      · show 0 + 9 < 1 + 9
        omega
    · left
      rw [if_neg hover]
      refine ⟨rfl, ?_⟩
      cases hlast : loads.getLast? with
      | none =>
        rw [hlast] at hover
        exact (hover rfl).elim
      | some l =>
        rw [hlast] at hover
        exact .load hlast (by simpa using hover)
  | @loaded o v shown idle loaded opened error_eq =>
    right
    simp only [Stint.turn, Stint.onward]
    cases loaded with
    | @read new reads snapshot selected quiet =>
      have hnext := afterLoad_of_read unwritable acts shown snapshot selected opened
        (error_eq.trans quiet)
      generalize afterLoad c unwritable q (some (.ok (.view v))) = next at hnext
      cases hnext with
      | act hshown hactions hchosen hinvoked honScreen =>
        refine ⟨.setOut hshown ?_ reads hchosen hinvoked honScreen, ?_⟩
        · rw [hactions]
          exact idle
        · rw [(rank_onScreen honScreen).1]
          exact Nat.lt_succ_self _
      | leave hcode =>
        exact nears_leave (.answered o) (.inr ⟨hcode, not_fulfilled_read⟩) (rank_pos _ _)
    | unread fails error =>
      -- The round could not be read, and the screen shows that.
      rw [error] at error_eq
      have hclosed : isOpen v = false := by simp [isOpen, error_eq, some?, Fault.syncText]
      simp only [afterLoad, hclosed, Bool.not_false, if_true]
      refine nears_leave (.answered o) ?_ (rank_pos _ _)
      refine code_of_finish copyless ⟨fun hnone => ?_, fun hfulfilled => by cases hfulfilled⟩
      rw [error_eq] at hnone
      cases hnone
  | @setOut o new r kind participant amount shown idle reads chosen invoked onScreen =>
    right
    obtain ⟨note, hbegin⟩ := begin_of_idle invoked (idle kind)
    have hsteady : (c.begin r).Steady := by
      refine begin_steady shown ?_
      rintro rfl
      cases onScreen
    refine nears_carry (congrArg Turn.client hbegin) (congrArg Turn.move hbegin) ?_ ?_
    · have hstart := Actions.start_becomes (c.typing r).actions kind
      rw [hbegin] at hsteady
      refine .acting reads chosen (asked?_of_invoked invoked) onScreen
        ⟨hsteady.attended, ?_, hstart.pending_eq, nofun, fun _ => ?_, nofun⟩
      · rw [hstart.result_eq]
        exact .due
      · exact congrArg Messages.error (Actions.messages_start (c.typing r).actions kind)
    · rw [(rank_onScreen onScreen).1]
      show 5 + 2 < 8
      omega
  | @acting o new r kind participant amount stage asked answers reads chosen asks onScreen acting =>
    cases stage with
    | due =>
      right
      obtain ⟨hacting, hquiet⟩ := acting.begin
      have hle := stepsLeft_le hacting.course (Move.stage_ne_due _)
      exact nears_acting reads chosen asks onScreen hacting hquiet
        (Nat.lt_succ_of_le ((Nat.le_add_right _ _).trans hle))
    | waiting need ps =>
      left
      -- The gateway is asked, as nobody lets others go first.
      have houtward : need.isOutward = true := by
        rcases acting.course.need_cases with houtward | rfl
        · exact houtward
        · have hcourse := acting.course
          generalize c.actions.result kind = result at hcourse
          cases hcourse with
          | telling _ _ => cases acting.points _ _ rfl _ List.mem_cons_self
      refine ⟨?_, .answer ⟨_, _, _, _, rfl, houtward⟩⟩
      cases need with
      | readings => rfl
      | answer call => rfl
      | _ => cases houtward
    | finished o' =>
      right
      obtain ⟨hclient, -, hmove⟩ := proceed_acting (c := c) (o := o') asks
      obtain ⟨reply, hreply⟩ := exists_told (c := c) onScreen acting.course
      refine nears_carry hclient (hmove.trans (congrArg Move.done hreply)) ?_ ?_
      · rw [show ∀ asked, asked ++ Move.asks (.done (.ok reply)) = asked from List.append_nil]
        exact .acted acting.shown (.acting reads chosen acting.course) (acting.verdict rfl)
      · show rank [(r, .finished (.ok reply))] < 0 + 2
        rw [(rank_onScreen onScreen).2]
        omega
  | @acted r reply asked answers shown trail verdict =>
    right
    obtain ⟨-, herror⟩ := view_of_attended shown
    refine nears_leave trail (code_of_finish copyless ?_) (rank_pos _ _)
    rw [herror]
    exact verdict
  | ended trail code => exact .inl ⟨rfl, .ended rfl⟩

/-- Nothing happens unless the gateway is asked, and answers with anything but a cancellation. -/
theorem reply_eq_self (h : s.IsAsking → o.isCancelled = true) : s.reply o = s := by
  unfold Stint.reply
  split
  · next r need ps beneath hflows =>
    rw [if_neg]
    intro heard
    rw [Bool.and_eq_true, Bool.not_eq_true'] at heard
    rw [h ⟨r, need, ps, beneath, hflows, heard.1⟩] at heard
    cases heard.2
  · rfl

/-- **The gateway answers.** -/
theorem Stands.reply (h : Stands q s) (asking : s.IsAsking) (ho : o.isCancelled = false) :
    Nears q s (s.reply o) := by
  obtain ⟨c, post, flows, loads, asked, answers⟩ := s
  obtain ⟨r', need', ps', beneath, hflows, houtward⟩ := asking
  change Phase q c post flows asked answers at h
  change flows = _ at hflows
  cases h with
  | reading shown idle quiet =>
    obtain ⟨hloaded, hpending, hmove⟩ := loaded_of_reply shown quiet ho
    have hsteady : (c.proceed o [.readings c.sync.issued, .loading]).Steady :=
      proceed_steady shown (by simp [Point.isSteady]) o
    simp only [Stint.reply, Need.isOutward, ho, Bool.not_false, Bool.and_self, if_true]
    refine nears_carry rfl hmove ?_ ?_
    · exact .drawing hsteady.attended (hpending ▸ idle) hloaded
    · show 1 + 9 < 2 + 9
      omega
  | drawing =>
    cases hflows
    cases houtward
  | acting reads chosen asks onScreen acting =>
    cases hflows
    simp only [Stint.reply, houtward, ho, Bool.not_false, Bool.and_self, if_true]
    obtain ⟨hacting, hquiet⟩ := acting.reply reads houtward ho
    have hle := stepsLeft_le hacting.course (Move.stage_ne_due _)
    have heq := stepsLeft_of_outward acting.course houtward
    rw [List.length_append, List.length_singleton] at hle
    exact nears_acting reads chosen asks onScreen hacting hquiet (by omega)
  | _ => cases hflows

end Steps

end Stint
end Plunder.Console
