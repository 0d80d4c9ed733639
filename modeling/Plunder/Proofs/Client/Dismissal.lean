import Plunder.Proofs.Client.Soundness
import Plunder.Proofs.Client.Unseen

/-!
# Dismissal

Whoever waits for an action may go away, and the screen may be dismissed at any time. The core of a
voyage is what is left then: the client without its screen, no chart loads, and whoever only waits
to be told something has been told. What happens on the screen alone leaves the core as it is, and
every other event does to the core what it does to the voyage. So two runs that differ in nothing
but the screen and those who wait do the same to the ledger.

Main statements:
- `Sound.core_aside`: what happens on the screen alone does not touch the core
- `Sound.core_step`: the core of a step is determined by the core
- `unaltered_run`: two runs that differ in nothing else do the same
-/

namespace Plunder

/-! ## Definitions -/

/-- Whether the end of something else is waited for. -/
def Need.isBeside : Need → Bool
  | .action .. | .chart => true
  | _ => false

/-- Whoever waits for something else has nothing more to do, and is told of it as well now as later.
What an errand ends with is for whoever asked. -/
def Stage.core (isOpen : Bool) : Stage → Stage
  | .due => .due
  | .waiting need ps =>
    if need.isBeside then .finished (.ok .nothing) else .waiting need (ps.map Point.core)
  | .finished o => .finished (if isOpen then .ok .nothing else o)

def Flow.core (f : Flow) : Flow := { f with stage := f.stage.core f.routine.isOpen }

namespace Voyage

/-- A voyage without its screen and those who wait. -/
def core (v : Voyage) : Voyage :=
  { v with client := v.client.core, flows := v.flows.map Flow.core, loads := [] }

/-- Whether an event is about more than the screen and those who wait: nothing comes to a chart
load, the screen is not dismissed, and nobody who waits for an action is told of its end or goes
away. -/
def Event.lasts : Event → Bool
  | .load .. | .dismiss | .news _ .ended | .news _ .leave => false
  | _ => true

/-- What two runs have in common that differ only on the screen. -/
structure Unaltered (v v' : Voyage) : Prop where
  /-- The same was asked of the gateway by the same flows, in the same order: every call that is
  submitted, every wait for its finality and every refresh. -/
  calls : v'.calls = v.calls
  ledger : v'.ledger = v.ledger
  /-- The results are the same, the kinds in flight and the feedback. -/
  actions : v'.client.actions = v.client.actions
  snapshot : v'.client.sync.snapshot = v.client.sync.snapshot
  selected : v'.client.sync.selected = v.client.sync.selected
  /-- As many refreshes have begun, the same one made the snapshot, and as many wait for their
  readings. -/
  refreshes : v'.client.sync.issued = v.client.sync.issued ∧
    v'.client.sync.applied = v.client.sync.applied ∧
      v'.client.sync.waiting = v.client.sync.waiting
  /-- The other listeners have heard the same. -/
  heard : v'.client.heard = v.client.heard
  /-- The same was set out, and the same actions were launched. -/
  routines : ∀ i, v'.routineAt? i = v.routineAt? i
  /-- Every flow has asked the same, has got the same answers and has launched the same action. -/
  flows : ∀ (i : Nat) f f', v.flows[i]? = some f → v'.flows[i]? = some f' →
    f'.asked = f.asked ∧ f'.answers = f.answers ∧ f'.launched = f.launched
  /-- Every action waits for the same, or has ended with the same. -/
  stages : ∀ (i : Nat) f f' kind, v.flows[i]? = some f → v'.flows[i]? = some f' →
    f.kind? = some kind → (∀ need, (∃ ps, f'.stage = .waiting need ps) ↔
      ∃ ps, f.stage = .waiting need ps) ∧ ∀ o, f'.stage = .finished o ↔ f.stage = .finished o

open Client

variable {v : Voyage} {e : Event} {f : Flow} {i : Nat} {n : News} {t : Turn}

/-! ## Flows -/

@[simp] theorem stage_core_core (s : Stage) (isOpen : Bool) :
    (s.core isOpen).core isOpen = s.core isOpen := by
  cases s with
  | due => rfl
  | waiting need ps =>
    cases h : need.isBeside <;> cases isOpen <;> simp [Stage.core, h]
  | finished o => cases isOpen <;> rfl

@[simp] theorem flow_core_core (f : Flow) : f.core.core = f.core := by
  simp [Flow.core]

@[simp] theorem flow_core_comp_core : Flow.core ∘ Flow.core = Flow.core := funext flow_core_core

@[simp] theorem core_core (v : Voyage) : v.core.core = v.core := by
  simp [core]

theorem core_hears (f : Flow) (n : News) : (f.hears n).core = f.core.hears n := by
  cases n <;> rfl

theorem asks_core (m : Move) : m.core.asks = m.asks := by
  cases m <;> rfl

theorem launch?_core (m : Move) : m.core.launch? = m.launch? := by
  cases m with
  | done o => rfl
  | wait need ps => cases need <;> rfl

theorem stage_core (m : Move) (isOpen : Bool) : m.core.stage.core isOpen = m.stage.core isOpen := by
  cases m with
  | done o => rfl
  | wait need ps => simp [Move.core, Move.stage, Stage.core]

/-- What becomes of a flow is the same without a screen. -/
theorem core_moved {f f' : Flow} {m m' : Move} (flow : f.core = f'.core) (move : m.core = m'.core)
    (next : Nat) : (f.moved m next).core = (f'.moved m' next).core := by
  obtain ⟨hroutine, -, hasked, hanswers, hlaunched⟩ := Flow.mk.inj flow
  replace hroutine : f.routine = f'.routine := hroutine
  replace hasked : f.asked = f'.asked := hasked
  replace hanswers : f.answers = f'.answers := hanswers
  replace hlaunched : f.launched = f'.launched := hlaunched
  simp only [Flow.moved, Flow.core, ← asks_core m, ← launch?_core m, ← stage_core m, move,
    asks_core, launch?_core, stage_core, hroutine, hasked, hanswers, hlaunched]

theorem core_carry {f' : Flow} {t' : Turn} (alike : t.Alike t') (flow : f.core = f'.core) :
    (v.carry i f t).core = (v.core.carry i f' t').core := by
  have hasks : t'.move.asks = t.move.asks := by rw [← asks_core, ← alike.move, asks_core]
  have hlaunch : t'.move.launch? = t.move.launch? := by
    rw [← launch?_core, ← alike.move, launch?_core]
  have hmoved := core_moved flow alike.move v.flows.length
  simp [core, carry, hasks, hlaunch, alike.client, hmoved, List.map_set]

/-! ## On the screen alone -/

/-- Whoever waits for something else is not an action, and learns of its end without doing anything
more. -/
theorem Sound.beside (h : v.Sound) (here : v.flows[i]? = some f) {need : Need} {ps : List Point}
    (stage : f.stage = .waiting need ps) (isBeside : need.isBeside = true) :
    f.routine.isOpen = true ∧ ∀ o, (v.client.proceed o ps).client = v.client ∧
      ∃ o', (v.client.proceed o ps).move = .done o' := by
  cases hkind : f.kind? with
  | some kind =>
    rcases h.need_cases here hkind stage with houtward | rfl
    · cases need <;> simp [Need.isBeside, Need.isOutward] at isBeside houtward
    · cases isBeside
  | none =>
    obtain ⟨hopen, herrand, -⟩ := h.errand i f here hkind
    refine ⟨hopen, fun o => ?_⟩
    rw [stage] at herrand
    cases herrand with
    | reading => cases isBeside
    | telling => cases isBeside
    | drawing =>
      obtain ⟨hclient, hmove⟩ := proceed_singleton v.client o .drawing
      rw [hclient, hmove]
      cases o <;> exact ⟨rfl, _, rfl⟩
    | acting asks =>
      obtain ⟨hclient, -, hmove⟩ := proceed_acting (c := v.client) (o := o) asks
      exact ⟨hclient, _, hmove⟩

/-- Whatever whoever waits for something else is told. -/
theorem Sound.core_beside (h : v.Sound) (here : v.flows[i]? = some f) {need : Need}
    {ps : List Point} (stage : f.stage = .waiting need ps) (isBeside : need.isBeside = true)
    (o : Outcome) : (v.carry i f (v.client.proceed o ps)).core = v.core := by
  obtain ⟨hopen, hproceed⟩ := h.beside here stage isBeside
  obtain ⟨hclient, o', hmove⟩ := hproceed o
  -- To wait for something else and to be over are the same in the core.
  have hflow : (f.moved (.done o') v.flows.length).core = f.core := by
    simp [Flow.core, Flow.moved, Move.stage, Move.asks, Move.launch?, Stage.core, stage, isBeside,
      hopen]
  have hset : (v.flows.map Flow.core).set i f.core = v.flows.map Flow.core := by
    obtain ⟨hi, hf⟩ := List.getElem?_eq_some_iff.1 here
    rw [← List.map_set, ← hf, List.set_getElem_self]
  simp [core, carry, hclient, hmove, Move.asks, Move.launch?, List.map_set, hflow, hset]

/-- Only whoever waits for something else hears of its end, or goes away. -/
theorem isBeside_of_heard {need : Need} {o : Outcome} (aside : (Event.news i n).lasts = false)
    (heard : v.heard? f need n = some o) : need.isBeside = true := by
  cases n with
  | ended => cases need <;> first | rfl | cases heard
  | leave => cases need <;> first | rfl | cases heard
  | _ => cases aside

/-- **What happens on the screen alone does not touch the core.** -/
theorem Sound.core_aside (h : v.Sound) (aside : e.lasts = false) : (v.step e).core = v.core := by
  cases e with
  | news i n =>
    simp only [Voyage.step, afterNews]
    split
    · next f here =>
      split
      · next t turn =>
        have hears : f.hears n = f := by cases n <;> first | rfl | cases aside
        cases hstage : f.stage with
        | due => cases n <;> simp [turn?, hstage, Event.lasts] at turn aside
        | waiting need ps =>
          simp only [turn?, hstage] at turn
          obtain ⟨o, heard, rfl⟩ := Option.map_eq_some_iff.1 turn
          rw [hears]
          exact h.core_beside here hstage (isBeside_of_heard aside heard) o
        | finished o => simp [turn?, hstage] at turn
      · rfl
    · rfl
  | load number o =>
    simp only [Voyage.step, Voyage.afterLoad]
    split
    · rfl
    · next need ps hload =>
      -- A chart load stands alone, so that nothing goes on with what it ends with.
      obtain ⟨-, generation, rfl⟩ := h.loads _ (List.mem_of_getElem? hload)
      obtain ⟨hclient, -⟩ := proceed_singleton v.client o (.chart generation)
      have hcore : (v.client.resume o (.chart generation)).client.core = v.client.core :=
        core_afterFetch v.client generation o
      simp only [core, hclient, hcore]
    · rfl
  | dismiss => simp only [Voyage.step, core, core_teardown]
  | _ => cases aside

/-! ## What lasts -/

theorem getElem?_core (here : v.flows[i]? = some f) : v.core.flows[i]? = some f.core := by
  simp [core, here]

/-- Whoever goes on, goes on alike without a screen. -/
theorem core_afterNews (here : v.flows[i]? = some f) {t' : Turn} (turn : v.turn? f n = some t)
    (turn' : v.core.turn? f.core n = some t') (alike : t.Alike t') :
    (v.afterNews i n).core = (v.core.afterNews i n).core := by
  simp only [afterNews, here, getElem?_core here, turn, turn']
  apply core_carry alike
  rw [core_hears, core_hears, flow_core_core]

theorem core_afterNews_of_none (here : v.flows[i]? = some f) (turn : v.turn? f n = none)
    (turn' : v.core.turn? f.core n = none) :
    (v.afterNews i n).core = (v.core.afterNews i n).core := by
  simp only [afterNews, here, getElem?_core here, turn, turn', core_core]

theorem Sound.routine_ne_chart (h : v.Sound) (here : v.flows[i]? = some f) :
    f.routine ≠ .chart := by
  intro hroutine
  have hkind : f.kind? = none := by simp only [Flow.kind?, hroutine]
  obtain ⟨hopen, -⟩ := h.errand i f here hkind
  rw [hroutine] at hopen
  cases hopen

/-- Before its first turn a flow is the same without a screen. -/
theorem Sound.core_news_due (h : v.Sound) (here : v.flows[i]? = some f) (due : f.stage = .due)
    (lasts : (Event.news i n).lasts = true) :
    (v.afterNews i n).core = (v.core.afterNews i n).core := by
  have due' : f.core.stage = .due := by simp only [Flow.core, due, Stage.core]
  cases n with
  | turn =>
    have turn : v.turn? f .turn = some (v.client.begin f.routine) := by
      simp only [turn?, due]
    have turn' : v.core.turn? f.core .turn = some (v.client.core.begin f.routine) := by
      simp only [turn?, due']
      rfl
    exact core_afterNews here turn turn' (begin_alike v.client (h.routine_ne_chart here))
  | cancel =>
    cases hopen : f.routine.isOpen with
    | true =>
      have hopen' : f.core.routine.isOpen = true := hopen
      have turn : v.turn? f .cancel = some (.finish v.client [] (.error .cancelled)) := by
        simp only [turn?, due, hopen, if_true]
      have turn' : v.core.turn? f.core .cancel =
          some (.finish v.client.core [] (.error .cancelled)) := by
        simp only [turn?, due', hopen', if_true]
        rfl
      exact core_afterNews here turn turn' (alike_core rfl rfl)
    | false =>
      have hopen' : f.core.routine.isOpen = false := hopen
      apply core_afterNews_of_none here
      · simp only [turn?, due, hopen, Bool.false_eq_true, if_false]
      · simp only [turn?, due', hopen', Bool.false_eq_true, if_false]
  | reply o =>
    apply core_afterNews_of_none here
    · simp only [turn?, due]
    · simp only [turn?, due']
  | ended => cases lasts
  | leave => cases lasts

/-- Whoever waits for something else is only cancelled, which is all the same. -/
theorem Sound.core_news_beside (h : v.Sound) (here : v.flows[i]? = some f) {need : Need}
    {ps : List Point} (stage : f.stage = .waiting need ps) (isBeside : need.isBeside = true)
    (lasts : (Event.news i n).lasts = true) :
    (v.afterNews i n).core = (v.core.afterNews i n).core := by
  have stage' : f.core.stage = .finished (.ok .nothing) := by
    simp only [Flow.core, stage, Stage.core, isBeside, if_true]
  have turn' : v.core.turn? f.core n = none := by simp only [turn?, stage']
  cases heard : v.heard? f need n with
  | none =>
    apply core_afterNews_of_none here _ turn'
    simp only [turn?, stage, heard, Option.map_none]
  | some o =>
    -- The gateway has nothing to say to it, so that no answer is kept.
    have hears : f.hears n = f := by
      cases n with
      | reply o' => cases need <;> simp [heard?, Need.isBeside, Need.isOutward] at heard isBeside
      | _ => rfl
    have turn : v.turn? f n = some (v.client.proceed o ps) := by
      simp only [turn?, stage, heard, Option.map_some]
    simp only [afterNews, here, getElem?_core here, turn, turn', hears, core_core]
    exact h.core_beside here stage isBeside o

theorem lasts_of_course {kind : ActionKind} {participant : String} {amount : Value} {need : Need}
    {ps : List Point} {asked : List Need} {answers : List Outcome} {r : TransactionResult}
    (h : Course kind participant amount (.waiting need ps) asked answers r) :
    ∀ p ∈ ps, p.lasts = true := by
  cases h <;> simp [Point.lasts]

/-- Whoever waits for nothing else has nothing to do with the chart. -/
theorem Sound.points_last (h : v.Sound) (here : v.flows[i]? = some f) {need : Need}
    {ps : List Point} (stage : f.stage = .waiting need ps) (isBeside : need.isBeside = false) :
    ∀ p ∈ ps, p.lasts = true := by
  cases hkind : f.kind? with
  | some kind =>
    obtain ⟨participant, amount, hroutine⟩ := routine_of_kind? hkind
    obtain ⟨r, hcourse, -⟩ := (h.acts i f kind participant amount here hroutine).course
    rw [stage] at hcourse
    exact lasts_of_course hcourse
  | none =>
    obtain ⟨-, herrand, -⟩ := h.errand i f here hkind
    have houter : ∀ p ∈ f.routine.outer, p.lasts = true := by
      cases f.routine <;> simp [Routine.outer, Point.lasts]
    rw [stage] at herrand
    cases herrand with
    | reading => exact List.forall_mem_cons.2 ⟨rfl, houter⟩
    | telling => exact List.forall_mem_cons.2 ⟨rfl, houter⟩
    | drawing => cases isBeside
    | acting => exact houter

/-- Whoever waits for nothing else goes on alike without a screen. -/
theorem Sound.core_news_waiting (h : v.Sound) (here : v.flows[i]? = some f) {need : Need}
    {ps : List Point} (stage : f.stage = .waiting need ps) (isBeside : need.isBeside = false)
    (lasts : (Event.news i n).lasts = true) :
    (v.afterNews i n).core = (v.core.afterNews i n).core := by
  have stage' : f.core.stage = .waiting need (ps.map Point.core) := by
    simp [Flow.core, stage, Stage.core, isBeside]
  have heard' : v.core.heard? f.core need n = v.heard? f need n := by
    cases n <;> first | rfl | cases lasts
  cases heard : v.heard? f need n with
  | none =>
    apply core_afterNews_of_none here
    · simp only [turn?, stage, heard, Option.map_none]
    · simp only [turn?, stage', heard', heard, Option.map_none]
  | some o =>
    have turn : v.turn? f n = some (v.client.proceed o ps) := by
      simp only [turn?, stage, heard, Option.map_some]
    have turn' : v.core.turn? f.core n =
        some (v.client.core.proceed o (ps.map Point.core)) := by
      simp only [turn?, stage', heard', heard, Option.map_some]
      rfl
    apply core_afterNews here turn turn'
    exact proceed_alike (h.points_last here stage isBeside) o (Client.core_core v.client).symm

/-- **Whatever lasting news come to a flow**, without a screen it does the same. -/
theorem Sound.core_news (h : v.Sound) (lasts : (Event.news i n).lasts = true) :
    (v.afterNews i n).core = (v.core.afterNews i n).core := by
  cases here : v.flows[i]? with
  | none =>
    have here' : v.core.flows[i]? = none := by simp [core, here]
    simp only [afterNews, here, here', core_core]
  | some f =>
    cases hstage : f.stage with
    | due => exact h.core_news_due here hstage lasts
    | waiting need ps =>
      cases hbeside : need.isBeside with
      | true => exact h.core_news_beside here hstage hbeside lasts
      | false => exact h.core_news_waiting here hstage hbeside lasts
    | finished o =>
      have hstage' : f.core.stage = .finished (if f.routine.isOpen then .ok .nothing else o) := by
        simp only [Flow.core, hstage, Stage.core]
      apply core_afterNews_of_none here
      · simp only [turn?, hstage]
      · simp only [turn?, hstage']

/-- The call that a flow waits to have submitted is the same without a screen. -/
theorem core_submission? (v : Voyage) (flow : Nat) :
    v.core.submission? flow = v.submission? flow := by
  cases here : v.flows[flow]? with
  | none => simp [submission?, core, here]
  | some f =>
    simp only [submission?, getElem?_core here, here, Option.map_some, Flow.core]
    cases f.stage with
    | waiting need ps =>
      cases need with
      | answer question => cases question <;> rfl
      | _ => rfl
    | _ => rfl

/-- **What is left of a step without its screen is determined by what was left before.** -/
theorem Sound.core_step (h : v.Sound) (lasts : e.lasts = true) :
    (v.step e).core = (v.core.step e).core := by
  cases e with
  | setOut r =>
    simp only [Voyage.step]
    split
    · simp [core]
    · exact (core_core v).symm
  | news i n => exact h.core_news lasts
  | touch t =>
    have hcore : (v.client.core.touch t).core = v.client.core.touch t := by
      rw [← core_touch, Client.core_core]
    simp [Voyage.step, core, core_touch, hcore]
  | reach flow =>
    simp only [Voyage.step, core_submission?]
    split
    · simp [core]
    · exact (core_core v).symm
  | ledger e => simp [Voyage.step, core]
  | load => cases lasts
  | dismiss => cases lasts

/-! ## Two runs -/

/-- A run without what happens on the screen alone has the same core. -/
theorem Sound.core_after {w : Voyage} (hv : v.Sound) (hw : w.Sound) (same : v.core = w.core)
    (es : List Event) : (v.after es).core = (w.after (es.filter Event.lasts)).core := by
  -- Both runs are followed, since a core need not be sound itself.
  induction es generalizing v w with
  | nil => exact same
  | cons e es ih =>
    cases lasts : e.lasts with
    | false =>
      have hfilter : (e :: es).filter Event.lasts = es.filter Event.lasts :=
        List.filter_cons_of_neg (by simp [lasts])
      rw [hfilter]
      exact ih (hv.step e) hw ((hv.core_aside lasts).trans same)
    | true =>
      have hfilter : (e :: es).filter Event.lasts = e :: es.filter Event.lasts :=
        List.filter_cons_of_pos lasts
      rw [hfilter]
      apply ih (hv.step e) (hw.step e)
      rw [hv.core_step lasts, same, ← hw.core_step lasts]

/-- An action does not wait for anything else. -/
theorem Sound.core_stage (h : v.Sound) (here : v.flows[i]? = some f) {kind : ActionKind}
    (hkind : f.kind? = some kind) :
    f.core.stage = match f.stage with
      | .waiting need ps => .waiting need (ps.map Point.core)
      | s => s := by
  obtain ⟨participant, amount, hroutine⟩ := routine_of_kind? hkind
  have hopen : f.routine.isOpen = false := by rw [hroutine]; rfl
  cases hstage : f.stage with
  | due => simp only [Flow.core, hstage, Stage.core]
  | finished o => simp [Flow.core, hstage, Stage.core, hopen]
  | waiting need ps =>
    cases hbeside : need.isBeside with
    | false => simp [Flow.core, hstage, Stage.core, hbeside]
    | true =>
      obtain ⟨hopen', -⟩ := h.beside here hstage hbeside
      rw [hopen] at hopen'
      cases hopen'

theorem Sound.core_waiting_iff (h : v.Sound) (here : v.flows[i]? = some f) {kind : ActionKind}
    (hkind : f.kind? = some kind) {need : Need} :
    (∃ ps, f.core.stage = .waiting need ps) ↔ ∃ ps, f.stage = .waiting need ps := by
  rw [h.core_stage here hkind]
  cases f.stage <;> simp

theorem Sound.core_finished_iff (h : v.Sound) (here : v.flows[i]? = some f) {kind : ActionKind}
    (hkind : f.kind? = some kind) {o : Outcome} :
    f.core.stage = .finished o ↔ f.stage = .finished o := by
  rw [h.core_stage here hkind]
  cases f.stage <;> simp

/-- Voyages with the same core have all this in common. -/
theorem unaltered_of_core {v' : Voyage} (h : v.Sound) (h' : v'.Sound) (same : v.core = v'.core) :
    v.Unaltered v' := by
  have hcalls := congrArg Voyage.calls same
  have hledger := congrArg Voyage.ledger same
  have hclient := congrArg Voyage.client same
  have hactions := congrArg Client.actions hclient
  have hheard := congrArg Client.heard hclient
  obtain ⟨hsnapshot, happlied, hselected, -, hissued, hwaiting⟩ :=
    Synchronizer.mk.inj (congrArg Client.sync hclient)
  have hflows : v.flows.map Flow.core = v'.flows.map Flow.core := congrArg Voyage.flows same
  have hflow {i : Nat} {f f' : Flow} (here : v.flows[i]? = some f)
      (here' : v'.flows[i]? = some f') : f.core = f'.core := by
    have hi := getElem?_core here
    rw [same, getElem?_core here'] at hi
    exact (Option.some.inj hi).symm
  constructor
  case calls => exact hcalls.symm
  case ledger => exact hledger.symm
  case actions => exact hactions.symm
  case snapshot => exact hsnapshot.symm
  case selected => exact hselected.symm
  case refreshes => exact ⟨hissued.symm, happlied.symm, hwaiting.symm⟩
  case heard => exact hheard.symm
  case routines =>
    have hroutine (w : Voyage) (i : Nat) :
        w.routineAt? i = (w.flows.map Flow.core)[i]?.map Flow.routine := by
      rw [List.getElem?_map, Option.map_map]
      rfl
    intro i
    rw [hroutine v, hroutine v', hflows]
  case flows =>
    intro i f f' here here'
    obtain ⟨-, -, hasked, hanswers, hlaunched⟩ := Flow.mk.inj (hflow here here')
    exact ⟨hasked.symm, hanswers.symm, hlaunched.symm⟩
  case stages =>
    intro i f f' kind here here' hkind
    have hcore := hflow here here'
    have hkind' : f'.kind? = some kind := by
      rw [← hkind]
      simp only [Flow.kind?, show f.routine = f'.routine from (Flow.mk.inj hcore).1]
    constructor
    · intro need
      rw [← h'.core_waiting_iff here' hkind', ← hcore, h.core_waiting_iff here hkind]
    · intro o
      rw [← h'.core_finished_iff here' hkind', ← hcore, h.core_finished_iff here hkind]

/-- **Whoever goes away alters nothing.** Take two runs in which the same happens, but for what
comes to chart loads, for the screen being dismissed, and for who waits for an action until told of
its end or goes away before. Then both do the same to the ledger, and they leave the actions and the
round the same. -/
theorem unaltered_run (settings : Settings) (signer : Option Signer) (desk : Desk) (nonce : Nat)
    (now : Moment) (ledger : Ledger) {es es' : List Event}
    (same : es.filter Event.lasts = es'.filter Event.lasts) :
    ((start settings signer desk nonce now ledger).after es).Unaltered
      ((start settings signer desk nonce now ledger).after es') := by
  have h := sound_start settings signer desk nonce now ledger
  apply unaltered_of_core (h.after es) (h.after es')
  calc ((start settings signer desk nonce now ledger).after es).core
      = ((start settings signer desk nonce now ledger).after (es.filter Event.lasts)).core :=
        h.core_after h rfl es
    _ = ((start settings signer desk nonce now ledger).after (es'.filter Event.lasts)).core := by
        rw [same]
    _ = ((start settings signer desk nonce now ledger).after es').core :=
        (h.core_after h rfl es').symm

/-- What becomes of a report: it is confirmed, the round is read again, and whoever asked for it is
told. -/
def attended : List Event :=
  reporting ++ [.news 2 .turn, .reach 2,
    .news 2 (.reply (.ok (.answer (.handle ⟨"0x1", "recordHaul"⟩)))),
    .news 2 (.reply (.ok (.answer (.receipt ⟨"0x1", .confirmed, some 1, ""⟩)))),
    .news 2 (.reply (.ok (.readings (.nat 0) [⟨"B", "Bart"⟩]))), .news 1 .ended]

/-- Whoever asked goes away before anything is signed, and the screen is dismissed while the round
is read again. -/
def deserted : List Event :=
  reporting ++ [.news 1 .leave, .news 2 .turn, .reach 2,
    .news 2 (.reply (.ok (.answer (.handle ⟨"0x1", "recordHaul"⟩)))),
    .news 2 (.reply (.ok (.answer (.receipt ⟨"0x1", .confirmed, some 1, ""⟩)))), .dismiss,
    .news 2 (.reply (.ok (.readings (.nat 0) [⟨"B", "Bart"⟩])))]

/-- A report that everybody has turned away from succeeds all the same. -/
theorem unaltered_deserted : attended.filter Event.lasts = deserted.filter Event.lasts ∧
    (moored.after attended).Unaltered (moored.after deserted) ∧
      (moored.after deserted).client.actions.result .haul = .success .haul "0x1" := by
  refine ⟨rfl, unaltered_run .builtIn _ _ _ _ _ rfl, ?_⟩
  obtain ⟨call, hcall⟩ := exists_signed_reporting
  have hafter : moored.after deserted = after
      (((moored.after reporting).step (.news 1 .leave)).carry 2
        (.ofRoutine (.action .haul "A" (.text "1")))
        ((moored.after reporting).client.action .haul "A" (.text "1")))
      (deserted.drop 7) := rfl
  rw [hafter, action, hcall]
  rfl

end Voyage
end Plunder
