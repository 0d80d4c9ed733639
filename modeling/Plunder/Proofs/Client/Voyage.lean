import Plunder.Proofs.Client.Errand

/-!
# Voyages

A voyage is a client with everything that it has set out to do, and the ledger that it deals with.
Flows go on in any order: they have their turns, the gateway answers them with anything but a
cancellation and whenever it likes, those who wait for an action hear of its end, and whoever waits
may be cancelled, but not an action that was launched.

Main statements:
- `step_moves`: what an event does to the flows and to the state of the actions
- `routineAt?_carry`, `carry_cases`: which flows there are after a step
-/

namespace Plunder

/-! ## Definitions -/

/-- Something that a client has set out to do. -/
structure Flow where
  routine : Routine
  stage : Stage
  /-- What it asked of the gateway, in order. -/
  asked : List Need
  /-- What came back, in the same order. -/
  answers : List Outcome
  /-- The action that it launched, if it did. -/
  launched : Option Nat

/-- A client, everything that it has set out to do, and the ledger. -/
structure Voyage where
  client : Client
  ledger : Ledger
  /-- What was asked for, and the actions that were launched, in the order in which they came. -/
  flows : List Flow
  /-- The chart loads, in the order in which they began. -/
  loads : List Stage
  /-- What was asked of the gateway, and by which flow, in order. -/
  calls : List (Nat × Need)

namespace Voyage

/-- What may come to a flow. -/
inductive News where
  /-- Its turn. -/
  | turn
  /-- The answer of the gateway. -/
  | reply (o : Outcome)
  /-- The end of what it waits for beside it, an action or a chart load. -/
  | ended
  /-- It is cancelled. -/
  | cancel
  /-- It is cancelled while it waits for an action. -/
  | leave

/-- What is done to a client at once. -/
inductive Touch where
  | select (address : String)
  | setAmount (amount : Value)
  | setSigner (signer : Option Signer)
  | listen (name : String) (kind : ListenerKind)
  | unlisten (name : String) (kind : ListenerKind)

/-- What happens on a voyage. -/
inductive Event where
  /-- Something is asked for. -/
  | setOut (r : Routine)
  | news (flow : Nat) (n : News)
  /-- Something comes to a chart load. -/
  | load (number : Nat) (o : Outcome)
  | touch (t : Touch)
  /-- The screen is dismissed. -/
  | dismiss
  /-- The call that a flow submits gets to the ledger. -/
  | reach (flow : Nat)
  /-- Something else happens to the ledger. -/
  | ledger (e : Ledger.Event)

end Voyage

namespace Flow

/-- A flow that has not had its first turn. -/
def ofRoutine (r : Routine) : Flow := ⟨r, .due, [], [], none⟩

/-- The kind of action that a flow is, if it is one. -/
def kind? (f : Flow) : Option ActionKind :=
  match f.routine with
  | .action kind _ _ => some kind
  | _ => none

/-- What came back from the gateway is kept. -/
def hears (f : Flow) : Voyage.News → Flow
  | .reply o => { f with answers := f.answers ++ [o] }
  | _ => f

/-- A flow after a step; if the step launches an action, that is the next flow. -/
def moved (f : Flow) (m : Move) (next : Nat) : Flow :=
  { f with
    stage := m.stage
    asked := f.asked ++ m.asks
    launched := if m.launch?.isSome then some next else f.launched }

end Flow

/-- What is done to a client at once is done. -/
def Client.touch (c : Client) : Voyage.Touch → Client
  | .select address =>
    match c.sync.select address with
    | .ok (sync, _) => { c with sync }
    | .error _ => c
  | .setAmount amount => { c with actions := c.actions.setAmount amount }
  | .setSigner signer => { c with actions := { c.actions with signer } }
  | .listen name kind => { c with sync := c.sync.addListener (.named name kind) }
  | .unlisten name kind => { c with sync := c.sync.removeListener (.named name kind) }

namespace Voyage

/-- A client that has not done anything yet. -/
def start (settings : Settings) (signer : Option Signer) (desk : Desk) (nonce : Nat)
    (now : Moment) (ledger : Ledger) : Voyage :=
  ⟨.fresh settings signer desk nonce now, ledger, [], [], []⟩

/-- A chart load that is called off hears of it when its gateway gives up, if ever. -/
def order (loads : List Stage) : Order → List Stage
  | .callOff => loads
  | .begin => loads ++ [.due]

/-- A flow takes a step. -/
def carry (v : Voyage) (flow : Nat) (f : Flow) (t : Turn) : Voyage where
  client := t.client
  ledger := v.ledger
  flows := v.flows.set flow (f.moved t.move v.flows.length) ++
    (t.move.launch?.map Flow.ofRoutine).toList
  loads := t.orders.foldl order v.loads
  calls := v.calls ++ t.move.asks.map fun need => (flow, need)

/-- How the action ended that a flow waits for; a chart load may always have ended. -/
def ending? (v : Voyage) (f : Flow) : Need → Option Outcome
  | .action .. =>
    match (f.launched.bind fun j => v.flows[j]?).map Flow.stage with
    | some (.finished o) => some o
    | _ => none
  | .chart => some (.ok .nothing)
  | _ => none

/-- What some news tell a flow that waits for something; none if they are not for it. -/
def heard? (v : Voyage) (f : Flow) (need : Need) : News → Option Outcome
  | .turn =>
    match need with
    | .turn => some (.ok .nothing)
    | _ => none
  | .reply o => if need.isOutward && !o.isCancelled then some o else none
  | .ended => v.ending? f need
  | .cancel => if f.routine.isOpen then some (.error .cancelled) else none
  | .leave =>
    match need with
    | .action .. => some (.error .cancelled)
    | _ => none

/-- The step that a flow takes with some news; none if they are not for it. -/
def turn? (v : Voyage) (f : Flow) (n : News) : Option Turn :=
  match f.stage with
  | .due =>
    match n with
    | .turn => some (v.client.begin f.routine)
    -- What is cancelled before its first turn never begins.
    | .cancel => if f.routine.isOpen then some (.finish v.client [] (.error .cancelled)) else none
    | _ => none
  | .waiting need ps => (v.heard? f need n).map fun o => v.client.proceed o ps
  | .finished _ => none

/-- The voyage after something has come to a chart load. -/
def afterLoad (v : Voyage) (number : Nat) (o : Outcome) : Voyage :=
  match v.loads[number]? with
  | some .due =>
    let t := v.client.begin .chart
    { v with client := t.client, loads := v.loads.set number t.move.stage }
  | some (.waiting _ ps) =>
    let t := v.client.proceed o ps
    { v with client := t.client, loads := v.loads.set number t.move.stage }
  | _ => v

/-- The call that a flow waits to have submitted, if it does. -/
def submission? (v : Voyage) (flow : Nat) : Option SignedCall :=
  match v.flows[flow]?.map Flow.stage with
  | some (.waiting (.answer (.submit call)) _) => some call
  | _ => none

/-- The voyage after some news for a flow. -/
def afterNews (v : Voyage) (flow : Nat) (n : News) : Voyage :=
  match v.flows[flow]? with
  | some f =>
    match v.turn? f n with
    | some t => v.carry flow (f.hears n) t
    | none => v
  | none => v

/-- The voyage after an event. -/
def step (v : Voyage) : Event → Voyage
  | .setOut r => if r.isOpen then { v with flows := v.flows ++ [.ofRoutine r] } else v
  | .news flow n => v.afterNews flow n
  | .load number o => v.afterLoad number o
  | .touch t => { v with client := v.client.touch t }
  | .dismiss =>
    let (client, orders) := v.client.teardown
    { v with client, loads := orders.foldl order v.loads }
  | .reach flow =>
    match v.submission? flow with
    | some call => { v with ledger := v.ledger.step (.submit call) }
    | none => v
  | .ledger e => { v with ledger := v.ledger.step e }

/-- The voyage after several events. -/
def after (v : Voyage) (es : List Event) : Voyage := es.foldl step v

/-- What a flow was set out to do. -/
def routineAt? (v : Voyage) (flow : Nat) : Option Routine := v.flows[flow]?.map Flow.routine

/-- Whether no action of a kind was launched after some flow. -/
def Latest (v : Voyage) (kind : ActionKind) (flow : Nat) : Prop :=
  ∀ j participant amount, v.routineAt? j = some (.action kind participant amount) → j ≤ flow

end Voyage

/-- Whether an action is what was asked for: a haul of the participant and in the amount that were
named, if they were; or a new round. -/
def Routine.Names (kind : ActionKind) (participant : String) (amount : Value) : Routine → Prop
  | .submitHaul p a | .report a p =>
    kind = .haul ∧ (∀ q ∈ p, participant = q) ∧ ∀ b ∈ a, amount = b
  | .advanceRound | .setSail => kind = .advance
  | _ => False

namespace Voyage

/-- What an event can do to the flows and to the state of the actions. -/
inductive Moves (v : Voyage) : Event → Voyage → Prop where
  /-- No flow takes a step. -/
  | rest {e : Event} {v' : Voyage} (flows : v'.flows = v.flows) (calls : v'.calls = v.calls)
      (same : v.client.actions.Same v'.client.actions) : Moves v e v'
  | setOut {r : Routine} (isOpen : r.isOpen = true) :
      Moves v (.setOut r) { v with flows := v.flows ++ [.ofRoutine r] }
  /-- An action is launched. -/
  | launch {flow : Nat} {f : Flow} {kind : ActionKind} {participant : String} {amount : Value}
      {t : Turn} (here : v.flows[flow]? = some f) (due : f.stage = .due)
      (invoked : v.client.invoked? f.routine = some (kind, participant, amount))
      (idle : v.client.actions.isPending kind = false)
      (becomes : v.client.actions.Becomes kind (.pending kind) true t.client.actions)
      (move : t.move = .wait (.action kind participant amount) f.routine.outer) :
      Moves v (.news flow .turn) (v.carry flow f t)
  /-- What was asked for goes on, and launches no action. -/
  | stroll {flow : Nat} {n : News} {f : Flow} {t : Turn} (here : v.flows[flow]? = some f)
      (isOpen : f.routine.isOpen = true) (turn : v.turn? f n = some t)
      (strolls : t.Strolls f.routine v.client.actions) :
      Moves v (.news flow n) (v.carry flow (f.hears n) t)
  /-- An action goes on. -/
  | pursue {flow : Nat} {n : News} {f : Flow} {t : Turn} {kind : ActionKind}
      {participant : String} {amount : Value} (here : v.flows[flow]? = some f)
      (routine : f.routine = .action kind participant amount) (under : f.stage.isOver = false)
      (pursues : t.Pursues kind participant amount v.client.actions f.asked (f.hears n).answers)
      (permits : ∀ call, .answer (.submit call) ∈ t.move.asks →
        f.stage = .due ∧ n = .turn ∧ v.client.Permits kind participant amount) :
      Moves v (.news flow n) (v.carry flow (f.hears n) t)

/-- Whether a stage is one of a chart load. -/
def IsLoad : Stage → Prop
  | .due | .finished _ => True
  | .waiting need ps => need = .answer .chart ∧ ∃ generation, ps = [.chart generation]

/-- Whether an action takes its course as the flow with some number. Only the latest action of its
kind may be under way, and the client keeps the outcome of that one. -/
structure Acts (v : Voyage) (i : Nat) (f : Flow) (kind : ActionKind) (participant : String)
    (amount : Value) : Prop where
  course : ∃ r, Course kind participant amount f.stage f.asked f.answers r ∧
    (v.Latest kind i → r = v.client.actions.result kind)
  pending : v.Latest kind i → v.client.actions.isPending kind = !f.stage.isOver
  latest : f.stage.isOver = false → v.Latest kind i

/-- What holds of a voyage at any time. -/
structure Sound (v : Voyage) : Prop where
  /-- What was asked for is at one of the stages of an errand, and only reads the round. -/
  errand : ∀ (i : Nat) f, v.flows[i]? = some f → f.kind? = none →
    f.routine.isOpen = true ∧ Errand f.routine f.stage ∧ ∀ need ∈ f.asked, need = .readings
  /-- Every action takes its course. -/
  acts : ∀ (i : Nat) f kind participant amount, v.flows[i]? = some f →
    f.routine = .action kind participant amount → v.Acts i f kind participant amount
  /-- Nothing is known of a kind of which no action was ever launched. -/
  idle : ∀ kind, (∀ (i : Nat) participant amount,
      v.routineAt? i ≠ some (.action kind participant amount)) →
    v.client.actions.result kind = .idle kind ∧ v.client.actions.isPending kind = false
  /-- Nothing is launched before the first turn. -/
  due : ∀ (i : Nat) f, v.flows[i]? = some f → f.stage = .due → f.launched = none
  /-- Whoever launched an action asked for it. -/
  launched : ∀ (i : Nat) f j, v.flows[i]? = some f → f.launched = some j →
    ∃ kind participant amount, v.routineAt? j = some (.action kind participant amount) ∧
      f.routine.Names kind participant amount
  /-- Whoever waits for an action has launched it. -/
  acting : ∀ (i : Nat) f kind participant amount ps, v.flows[i]? = some f →
    f.stage = .waiting (.action kind participant amount) ps → ps = f.routine.outer ∧
      ∃ j, f.launched = some j ∧ v.routineAt? j = some (.action kind participant amount)
  /-- No two have launched the same action. -/
  distinct : ∀ (i i' : Nat) f f' j, v.flows[i]? = some f → v.flows[i']? = some f' →
    f.launched = some j → f'.launched = some j → i = i'
  /-- A chart load waits for its payload. -/
  loads : ∀ s ∈ v.loads, IsLoad s

/-! ## What is kept of news -/

@[simp] theorem hears_routine (f : Flow) (n : News) : (f.hears n).routine = f.routine := by
  cases n <;> rfl

@[simp] theorem hears_launched (f : Flow) (n : News) : (f.hears n).launched = f.launched := by
  cases n <;> rfl

@[simp] theorem hears_asked (f : Flow) (n : News) : (f.hears n).asked = f.asked := by
  cases n <;> rfl

/-! ## What an event does -/

open Client

variable {v v' : Voyage} {e : Event} {f : Flow} {flow : Nat} {n : News} {t : Turn}

theorem routine_of_kind? {kind : ActionKind} (h : f.kind? = some kind) :
    ∃ participant amount, f.routine = .action kind participant amount := by
  unfold Flow.kind? at h
  split at h
  · next hroutine =>
    cases h
    exact ⟨_, _, hroutine⟩
  · cases h

theorem kind?_of_routine {kind : ActionKind} {participant : String} {amount : Value}
    (h : f.routine = .action kind participant amount) : f.kind? = some kind := by
  simp only [Flow.kind?, h]

/-- What was asked for takes a step: it launches an action or strolls on. -/
theorem Sound.turn_errand (h : v.Sound) (here : v.flows[flow]? = some f) (hkind : f.kind? = none)
    (turn : v.turn? f n = some t) :
    v.Moves (.news flow n) (v.carry flow (f.hears n) t) := by
  obtain ⟨hopen, herrand, -⟩ := h.errand flow f here hkind
  have hturn := turn
  unfold turn? at turn
  cases hstage : f.stage with
  | due =>
    rw [hstage] at turn
    cases n with
    | turn =>
      obtain rfl := Option.some.inj turn
      cases hinvoked : v.client.invoked? f.routine with
      | none => exact .stroll here hopen hturn (begin_strolls hopen hinvoked)
      | some invoked =>
        obtain ⟨kind, participant, amount⟩ := invoked
        cases hpending : v.client.actions.isPending kind with
        | true => exact .stroll here hopen hturn (begin_of_pending_strolls hinvoked hpending)
        | false =>
          obtain ⟨note, hbegin⟩ := begin_of_idle hinvoked hpending
          show v.Moves _ (v.carry flow f _)
          refine .launch here hstage hinvoked hpending ?_ (by rw [hbegin])
          rw [hbegin]
          exact ((typing_same v.client f.routine).becomes kind).trans (Actions.start_becomes _ kind)
    | cancel =>
      simp only [hopen, if_true, Option.some.injEq] at turn
      subst turn
      exact .stroll here hopen hturn (finish_strolls (.refl _))
    | _ => cases turn
  | waiting need ps =>
    rw [hstage] at turn herrand
    obtain ⟨o, -, rfl⟩ := Option.map_eq_some_iff.1 turn
    exact .stroll here hopen hturn (proceed_strolls herrand o)
  | finished o =>
    rw [hstage] at turn
    cases turn

/-- Whatever an action hears of while it waits, it goes on with. -/
theorem pursues_heard {kind : ActionKind} {participant : String} {amount : Value} {need : Need}
    {ps : List Point} {o : Outcome}
    (hcourse : Course kind participant amount (.waiting need ps) f.asked f.answers
      (v.client.actions.result kind))
    (pending : v.client.actions.isPending kind = true) (closed : f.routine.isOpen = false)
    (heard : v.heard? f need n = some o) :
    (v.client.proceed o ps).Pursues kind participant amount v.client.actions f.asked
      (f.hears n).answers := by
  have hneed := hcourse.need_cases
  cases n with
  | turn =>
    cases need with
    | turn =>
      cases heard
      exact hcourse.turn pending
    | _ => cases heard
  | reply o' =>
    simp only [heard?, Bool.and_eq_true, Bool.not_eq_true', Option.ite_none_right_eq_some,
      Option.some.injEq] at heard
    obtain ⟨⟨houtward, ho⟩, rfl⟩ := heard
    exact hcourse.reply pending houtward ho
  | ended => cases need <;> simp [heard?, ending?, Need.isOutward] at heard hneed
  | cancel => simp [heard?, closed] at heard
  | leave => cases need <;> simp [heard?, Need.isOutward] at heard hneed

/-- An action takes a step of its course. -/
theorem Sound.turn_action (h : v.Sound) (here : v.flows[flow]? = some f) {kind : ActionKind}
    {participant : String} {amount : Value} (routine : f.routine = .action kind participant amount)
    (turn : v.turn? f n = some t) :
    v.Moves (.news flow n) (v.carry flow (f.hears n) t) := by
  obtain ⟨⟨r, hcourse, hresult⟩, hpending, hlatest⟩ := h.acts flow f kind participant amount here
    routine
  have hclosed : f.routine.isOpen = false := by rw [routine]; rfl
  have under : f.stage.isOver = false := by
    cases hstage : f.stage with
    | finished o => simp only [turn?, hstage, reduceCtorEq] at turn
    | _ => rfl
  obtain rfl := hresult (hlatest under)
  replace hpending := hpending (hlatest under)
  rw [under] at hpending
  cases hstage : f.stage with
  | due =>
    rw [hstage] at hcourse
    simp only [turn?, hstage] at turn
    cases n with
    | turn =>
      obtain rfl := Option.some.inj turn
      rw [routine]
      exact .pursue here routine under (hcourse.begin hpending) fun call hcall =>
        ⟨hstage, rfl, Course.permits_of_asks hcall⟩
    | cancel => simp [hclosed] at turn
    | _ => cases turn
  | waiting need ps =>
    rw [hstage] at hcourse
    simp only [turn?, hstage] at turn
    obtain ⟨o, ho, rfl⟩ := Option.map_eq_some_iff.1 turn
    have hpursues := pursues_heard hcourse hpending hclosed ho
    refine .pursue here routine under hpursues fun call hcall => ?_
    -- Its call was submitted before.
    obtain ⟨x, xs, hxs⟩ := List.exists_cons_of_ne_nil hcourse.asked_ne_nil
    have hno := hpursues.course.submit_notMem_tail call
    rw [hxs] at hno
    exact (hno (List.mem_append_right _ hcall)).elim
  | finished o => simp only [turn?, hstage, reduceCtorEq] at turn

/-! ## What no flow does -/

theorem touch_same (c : Client) (t : Touch) : c.actions.Same (c.touch t).actions := by
  cases t with
  | select address =>
    simp only [touch]
    split <;> exact .refl _
  | setAmount amount => exact fun k => ⟨by cases k <;> rfl, rfl⟩
  | setSigner signer => exact fun k => ⟨by cases k <;> rfl, rfl⟩
  | listen name kind => exact .refl _
  | unlisten name kind => exact .refl _

theorem afterFetch_actions (c : Client) (generation : Nat) (o : Outcome) :
    (c.afterFetch generation o).client.actions = c.actions := by
  unfold afterFetch
  split <;> rfl

theorem afterFetch_over (c : Client) (generation : Nat) (o : Outcome) :
    (c.afterFetch generation o).move.stage.isOver = true := by
  unfold afterFetch
  split <;> rfl

/-- A chart load leaves the flows and the actions alone. -/
theorem Sound.afterLoad (h : v.Sound) (number : Nat) (o : Outcome) :
    (v.afterLoad number o).flows = v.flows ∧ (v.afterLoad number o).calls = v.calls ∧
      (v.afterLoad number o).client.actions = v.client.actions := by
  unfold Voyage.afterLoad
  split
  · exact ⟨rfl, rfl, rfl⟩
  · next need ps hload =>
    obtain ⟨-, generation, rfl⟩ := h.loads _ (List.mem_of_getElem? hload)
    refine ⟨rfl, rfl, ?_⟩
    show (v.client.proceed o [.chart generation]).client.actions = _
    rw [(proceed_singleton v.client o (.chart generation)).1]
    exact afterFetch_actions v.client generation o
  · exact ⟨rfl, rfl, rfl⟩

/-- **What an event does** to the flows and to the state of the actions. -/
theorem step_moves (h : v.Sound) (e : Event) : v.Moves e (v.step e) := by
  cases e with
  | setOut r =>
    simp only [step]
    split
    · next hopen => exact .setOut hopen
    · exact .rest rfl rfl (.refl _)
  | news flow n =>
    simp only [step, afterNews]
    split
    · next f here =>
      split
      · next t turn =>
        cases hkind : f.kind? with
        | none => exact h.turn_errand here hkind turn
        | some kind =>
          obtain ⟨participant, amount, hroutine⟩ := routine_of_kind? hkind
          exact h.turn_action here hroutine turn
      · exact .rest rfl rfl (.refl _)
    · exact .rest rfl rfl (.refl _)
  | load number o =>
    obtain ⟨hflows, hcalls, hactions⟩ := h.afterLoad number o
    exact .rest hflows hcalls (hactions ▸ .refl _)
  | touch t => exact .rest rfl rfl (touch_same v.client t)
  | dismiss => exact .rest rfl rfl (.refl _)
  | reach flow =>
    simp only [step]
    split <;> exact .rest rfl rfl (.refl _)
  | ledger e => exact .rest rfl rfl (.refl _)

/-! ## Flows and their numbers -/

section Numbers

variable {r : Routine} {kind : ActionKind} {participant : String} {amount : Value} {i j : Nat}
  {f' g : Flow}

theorem routineAt?_eq_some (here : v.flows[i]? = some f) (routine : f.routine = r) :
    v.routineAt? i = some r := by
  rw [routineAt?, here, Option.map_some, routine]

theorem Latest.le (h : v.Latest kind i) (there : v.flows[j]? = some g)
    (hkind : g.kind? = some kind) : j ≤ i := by
  obtain ⟨participant, amount, hroutine⟩ := routine_of_kind? hkind
  exact h j participant amount (routineAt?_eq_some there hroutine)

theorem lt_of_routineAt? (h : v.routineAt? j = some r) : j < v.flows.length := by
  obtain ⟨f, hf, -⟩ := Option.map_eq_some_iff.1 h
  exact (List.getElem?_eq_some_iff.1 hf).1

/-- What a flow was set out to do never changes, and an action that is launched is the next
flow. -/
theorem routineAt?_carry (here : v.flows[i]? = some f) (routine : f'.routine = f.routine) :
    (v.carry i f' t).routineAt? j =
      if j = v.flows.length then t.move.launch? else v.routineAt? j := by
  have hi : i < v.flows.length := (List.getElem?_eq_some_iff.1 here).1
  simp only [routineAt?, carry]
  split
  · next hj =>
    subst hj
    rw [List.getElem?_append_right (by simp)]
    cases t.move.launch? with
    | none => simp
    | some r => simp [Flow.ofRoutine]
  · next hj =>
    rcases Nat.lt_or_gt_of_ne hj with hlt | hgt
    · rw [List.getElem?_append_left (by simpa using hlt), List.getElem?_set]
      split
      · next hij =>
        subst hij
        rw [here]
        exact congrArg some routine
      · rfl
    · rw [List.getElem?_append_right (by simp; omega), List.length_set]
      have hend : ((t.move.launch?.map Flow.ofRoutine).toList)[j - v.flows.length]? = none := by
        apply List.getElem?_eq_none
        cases t.move.launch? <;> simp
        omega
      rw [hend, List.getElem?_eq_none (by omega)]

/-- A flow after a step: the one that took it, another one, or the action that was launched. -/
theorem carry_cases (hj : (v.carry i f' t).flows[j]? = some g) :
    (j = i ∧ g = f'.moved t.move v.flows.length) ∨ (j ≠ i ∧ v.flows[j]? = some g) ∨
      j = v.flows.length ∧ ∃ r, t.move.launch? = some r ∧ g = .ofRoutine r := by
  simp only [carry, List.getElem?_append, List.length_set] at hj
  split at hj
  · next hlt =>
    by_cases hij : i = j
    · subst hij
      rw [List.getElem?_set_self hlt] at hj
      exact .inl ⟨rfl, (Option.some.inj hj).symm⟩
    · rw [List.getElem?_set_ne hij] at hj
      exact .inr (.inl ⟨Ne.symm hij, hj⟩)
  · next hlen =>
    cases hlaunch : t.move.launch? with
    | none => simp [hlaunch] at hj
    | some r =>
      rw [hlaunch] at hj
      simp only [Option.map_some, Option.toList_some, List.getElem?_singleton] at hj
      split at hj
      · next hzero => exact .inr (.inr ⟨by omega, r, rfl, (Option.some.inj hj).symm⟩)
      · cases hj

/-- The actions of a kind are the same, and so is what the client keeps of it. -/
theorem Acts.congr (h : v.Acts j g kind participant amount)
    (actions : ∀ j p a, v'.routineAt? j = some (.action kind p a) ↔
      v.routineAt? j = some (.action kind p a))
    (same : v'.client.actions.result kind = v.client.actions.result kind ∧
      v'.client.actions.isPending kind = v.client.actions.isPending kind) :
    v'.Acts j g kind participant amount := by
  have hlatest : v'.Latest kind j ↔ v.Latest kind j := by simp only [Latest, actions]
  obtain ⟨r, hcourse, hresult⟩ := h.course
  constructor
  case course =>
    refine ⟨r, hcourse, fun hl => ?_⟩
    rw [same.1]
    exact hresult (hlatest.1 hl)
  case pending =>
    intro hl
    rw [same.2]
    exact h.pending (hlatest.1 hl)
  case latest => exact fun hover => hlatest.2 (h.latest hover)

end Numbers

/-! ## A report -/

/-- A client with a signer, on a ledger that nobody has used yet. -/
def moored : Voyage :=
  start .builtIn (some ⟨⟨"seed:ops"⟩, ""⟩) (.empty false) 0 ⟨2024, 1, 2, 3, 4, 5, 0, some 0⟩
    (.fresh ⟨[⟨"A", "Anne"⟩, ⟨"B", "Bart"⟩], [], "", none, .whole 60, false, fun _ => .ok []⟩)

/-- The round is read, and a haul is reported for Anne. -/
def reporting : List Event :=
  [.setOut .refresh, .news 0 .turn,
    .news 0 (.reply (.ok (.readings (.nat 0) [⟨"A", "Anne"⟩, ⟨"B", "Bart"⟩]))),
    .setOut (.report (some (.text "1")) (some "A")), .news 1 .turn]

/-- The haul for Anne can be signed. -/
theorem exists_signed_reporting :
    ∃ call, ((moored.after reporting).client.signed .haul "A" (.text "1")).call = .ok call := by
  have hamount : (Value.nat 1000000000000000000).inline? = some "1000000000000000000" := by decide
  obtain ⟨signature, hcall⟩ := Signer.exists_recordHaul ⟨⟨"seed:ops"⟩, ""⟩
    (moored.after reporting).client.now (moored.after reporting).client.nonce "A" hamount
  exact ⟨_, hcall⟩

end Voyage
end Plunder
