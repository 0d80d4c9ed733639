import Mathlib.Data.Nat.Find
import Plunder.Proofs.Client.Soundness

/-!
# Orchestration

Actions of two kinds run beside refreshes and beside each other, and whoever asked for one may stop
waiting at any time. Of each kind at most one is in flight; it submits at most one call, and its
outcome is what the gateway said of that one.

Main statement:
- `orchestrated_run`: how the actions of a voyage are orchestrated at any time
-/

namespace Plunder

/-! ## Definitions -/

def Need.isSubmission : Need → Bool
  | .answer (.submit _) => true
  | _ => false

/-- Whether the call that an action submitted itself was confirmed, under some hash: a handle came
for the call, and a receipt that confirms came for the handle. -/
def Flow.Confirmed (f : Flow) (txHash : String) : Prop :=
  ∃ kind participant amount call h r needs outcomes,
    f.routine = .action kind participant amount ∧ call.IsFor kind participant amount ∧
      f.asked = .answer (.submit call) :: .answer (.finality h) :: needs ∧
        f.answers = .ok (.answer (.handle h)) :: .ok (.answer (.receipt r)) :: outcomes ∧
          r.confirmed = true ∧ r.txHash = txHash

namespace Voyage

/-- What a flow asked of the gateway. -/
def callsOf (v : Voyage) (flow : Nat) : List Need :=
  (v.calls.filter fun c => c.1 == flow).map Prod.snd

/-- How the actions of a voyage are orchestrated. -/
structure Orchestrated (v : Voyage) : Prop where
  /-- Of each kind at most one action is under way. -/
  single : ∀ (i j : Nat) f g kind, v.flows[i]? = some f → v.flows[j]? = some g →
    f.kind? = some kind → g.kind? = some kind → f.stage.isOver = false → g.stage.isOver = false →
      i = j
  /-- A kind is in flight exactly while an action of that kind is under way. -/
  pending_iff : ∀ kind, v.client.actions.isPending kind = true ↔
    ∃ (i : Nat) (f : Flow), v.flows[i]? = some f ∧ f.kind? = some kind ∧ f.stage.isOver = false
  /-- What is asked for while its kind is in flight is refused, and nothing else happens. -/
  refused : ∀ (i : Nat) f kind participant amount, v.flows[i]? = some f → f.stage = .due →
    v.client.invoked? f.routine = some (kind, participant, amount) → f.routine.outer = [] →
      v.client.actions.isPending kind = true →
        v.step (.news i .turn) = { v with
          flows := v.flows.set i { f with stage := .finished (.error (Actions.inProgress kind)) } }
  /-- What is asked for otherwise launches one action, and asks nothing of the gateway itself. -/
  accepted : ∀ (i : Nat) f kind participant amount, v.flows[i]? = some f → f.stage = .due →
    v.client.invoked? f.routine = some (kind, participant, amount) →
      v.client.actions.isPending kind = false →
        (v.step (.news i .turn)).calls = v.calls ∧
          (v.step (.news i .turn)).flows = v.flows.set i { f with
            stage := .waiting (.action kind participant amount) f.routine.outer
            launched := some v.flows.length } ++ [.ofRoutine (.action kind participant amount)]
  /-- A call is submitted only by an action that has its first turn, and only if the client has what
  it takes at that moment. -/
  permitted : ∀ e (i : Nat) call, (i, .answer (.submit call)) ∈ (v.step e).calls →
    (i, .answer (.submit call)) ∈ v.calls ∨ ∃ f kind participant amount, e = .news i .turn ∧
      v.flows[i]? = some f ∧ f.stage = .due ∧ f.routine = .action kind participant amount ∧
        v.client.Permits kind participant amount
  /-- No flow submits more than one call. -/
  once : ∀ (i : Nat), ((v.callsOf i).filter Need.isSubmission).length ≤ 1
  /-- A kind that is not in flight has no outcome if no action of that kind was ever launched.
  Otherwise it has that of the latest: a success if its own call was confirmed, and a failure with a
  reason if not. -/
  settled : ∀ kind, v.client.actions.isPending kind = false →
    ((∀ (i : Nat) f, v.flows[i]? = some f → f.kind? ≠ some kind) ∧
      v.client.actions.result kind = .idle kind) ∨
    ∃ (i : Nat) (f : Flow), v.flows[i]? = some f ∧ f.kind? = some kind ∧ v.Latest kind i ∧
      ((∃ txHash, f.Confirmed txHash ∧ v.client.actions.result kind = .success kind txHash) ∨
        ((∀ txHash, ¬ f.Confirmed txHash) ∧ ∃ reason, reason ≠ "" ∧
          v.client.actions.result kind = .failure kind reason))
  /-- If whoever asked for an action waits no longer, nothing else happens. -/
  abandoned : ∀ (i : Nat) f kind participant amount ps, v.flows[i]? = some f →
    f.stage = .waiting (.action kind participant amount) ps →
      v.step (.news i .cancel) =
        { v with flows := v.flows.set i { f with stage := .finished (.error .cancelled) } }
  /-- An action that was launched is not cancelled. -/
  unstoppable : ∀ (i : Nat) f kind, v.flows[i]? = some f → f.kind? = some kind →
    v.step (.news i .cancel) = v

end Voyage

/-! ## Courses that are over -/

/-- A call is confirmed under one hash. -/
theorem Flow.Confirmed.unique {f : Flow} {txHash txHash' : String} (h : f.Confirmed txHash)
    (h' : f.Confirmed txHash') : txHash = txHash' := by
  obtain ⟨-, -, -, call, handle, r, needs, outcomes, -, -, -, ho, -, rfl⟩ := h
  obtain ⟨-, -, -, call', handle', r', needs', outcomes', -, -, -, ho', -, rfl⟩ := h'
  rw [ho] at ho'
  cases ho'
  rfl

/-- **What the client keeps of an action** is a success if its own call was confirmed; otherwise it
is that the action is under way, or a failure with a reason. -/
theorem Course.result_cases {f : Flow} {kind : ActionKind} {participant : String} {amount : Value}
    {r : TransactionResult} (h : Course kind participant amount f.stage f.asked f.answers r)
    (routine : f.routine = .action kind participant amount) :
    (∃ txHash, f.Confirmed txHash ∧ r = .success kind txHash) ∨
      ((∀ txHash, ¬ f.Confirmed txHash) ∧
        ((f.stage.isOver = false ∧ r = .pending kind) ∨
          (f.stage.isOver = true ∧ ∃ reason, reason ≠ "" ∧ r = .failure kind reason))) := by
  generalize hstage : f.stage = s at h
  generalize hasked : f.asked = asked at h
  generalize hanswers : f.answers = answers at h
  -- Whether the call was confirmed is read off the first two answers.
  have confirmed {call : SignedCall} {h : TransactionHandle} {r : TransactionReceipt}
      {needs : List Need} {outcomes : List Outcome} (signed : call.IsFor kind participant amount)
      (ha : f.asked = .answer (.submit call) :: .answer (.finality h) :: needs)
      (ho : f.answers = .ok (.answer (.handle h)) :: .ok (.answer (.receipt r)) :: outcomes)
      (hr : r.confirmed = true) : f.Confirmed r.txHash :=
    ⟨kind, participant, amount, call, h, r, needs, outcomes, routine, signed, ha, ho, hr, rfl⟩
  have unconfirmed (hno : ∀ x (r : TransactionReceipt) outcomes, r.confirmed = true →
      answers ≠ x :: .ok (.answer (.receipt r)) :: outcomes) : ∀ txHash, ¬ f.Confirmed txHash := by
    rintro txHash ⟨-, -, -, call, h, r, needs, outcomes, -, -, -, ho, hr, -⟩
    exact hno _ r outcomes hr (hanswers.symm.trans ho)
  cases h with
  | due => exact .inr ⟨unconfirmed (by simp), .inl ⟨rfl, rfl⟩⟩
  | submitting signed => exact .inr ⟨unconfirmed (by simp), .inl ⟨rfl, rfl⟩⟩
  | awaiting signed => exact .inr ⟨unconfirmed (by simp), .inl ⟨rfl, rfl⟩⟩
  | @failed _ _ f' reason failing submission nonempty =>
    refine .inr ⟨unconfirmed fun x r outcomes hr ho => ?_, .inr ⟨rfl, reason, nonempty, rfl⟩⟩
    cases failing with
    | reverted signed refused =>
      cases ho
      exact refused r hr rfl
    | _ => cases ho
  | reading signed hr => exact .inl ⟨_, confirmed signed hasked hanswers hr, rfl⟩
  | telling signed hr => exact .inl ⟨_, confirmed signed hasked hanswers hr, rfl⟩
  | done signed hr => exact .inl ⟨_, confirmed signed hasked hanswers hr, rfl⟩

/-- An action submits its call before it asks for anything else. -/
theorem Course.submissions_le {kind : ActionKind} {participant : String} {amount : Value}
    {stage : Stage} {asked : List Need} {answers : List Outcome} {r : TransactionResult}
    (h : Course kind participant amount stage asked answers r) :
    (asked.filter Need.isSubmission).length ≤ 1 := by
  cases h with
  | due => exact Nat.zero_le 1
  | failed failing _ _ =>
    cases failing with
    | unsigned => exact Nat.zero_le 1
    | _ => exact Nat.le_refl 1
  | _ => exact Nat.le_refl 1

namespace Voyage

open Client

variable {v v' : Voyage} {e : Event} {f g : Flow} {i j : Nat} {kind : ActionKind}
  {participant : String} {amount : Value}

/-! ## What was asked of the gateway -/

/-- Whether it is known of every flow what it asked of the gateway. -/
def Recorded (v : Voyage) : Prop :=
  ∀ i, v.callsOf i = ((v.flows[i]?.map Flow.asked).getD [])

theorem callsOf_carry (v : Voyage) (i : Nat) (f : Flow) (t : Turn) (j : Nat) :
    (v.carry i f t).callsOf j = v.callsOf j ++ if i = j then t.move.asks else [] := by
  have hasks : ∀ needs : List Need,
      (((needs.map fun need => (i, need)).filter fun c => c.1 == j).map Prod.snd) =
        if i = j then needs else [] := by
    intro needs
    induction needs with
    | nil => simp
    | cons need needs ih =>
      by_cases hij : i = j
      · simp only [hij, if_true] at ih ⊢
        simp [ih]
      · simp only [hij, if_false] at ih ⊢
        simp [hij, ih]
  simp only [callsOf, carry, List.filter_append, List.map_append, hasks]

/-- A flow that takes a step is known to have asked what the step asks. -/
theorem Recorded.carry (h : v.Recorded) (here : v.flows[i]? = some f)
    (asked : g.asked = f.asked) {t : Turn} : (v.carry i g t).Recorded := by
  intro j
  have hi : i < v.flows.length := (List.getElem?_eq_some_iff.1 here).1
  rw [callsOf_carry, h j]
  by_cases hij : i = j
  · subst hij
    have hself : (v.carry i g t).flows[i]? = some (g.moved t.move v.flows.length) := by
      simp [Voyage.carry, List.getElem?_append, hi]
    rw [hself, here, if_pos rfl]
    simp [Flow.moved, asked]
  · rw [if_neg hij, List.append_nil]
    cases hj : (v.carry i g t).flows[j]? with
    | some g' =>
      rcases carry_cases hj with ⟨rfl, -⟩ | ⟨-, hold⟩ | ⟨rfl, r, -, rfl⟩
      · exact (hij rfl).elim
      · rw [hold]
      · simp [Flow.ofRoutine]
    | none =>
      have hlen : v.flows.length ≤ j := by
        have := List.getElem?_eq_none_iff.1 hj
        simp only [Voyage.carry, List.length_append, List.length_set] at this
        omega
      rw [List.getElem?_eq_none hlen]

theorem Recorded.step (h : v.Recorded) (sound : v.Sound) (e : Event) : (v.step e).Recorded := by
  have m := step_moves sound e
  generalize v.step e = v' at m
  cases m with
  | rest flows calls same =>
    intro j
    rw [callsOf, calls, flows]
    exact h j
  | setOut isOpen =>
    intro j
    refine (h j).trans ?_
    rw [List.getElem?_append]
    split
    · rfl
    · next hlen =>
      rw [List.getElem?_eq_none (by omega), List.getElem?_singleton]
      split <;> rfl
  | launch here due invoked idle becomes move => exact h.carry here rfl
  | @stroll i n f t here isOpen turn strolls => exact h.carry here (hears_asked f n)
  | @pursue i n f t kind participant amount here routine under pursues permits =>
    exact h.carry here (hears_asked f n)

theorem Recorded.after (h : v.Recorded) (sound : v.Sound) (es : List Event) :
    (v.after es).Recorded := by
  induction es generalizing v with
  | nil => exact h
  | cons e es ih => exact ih (h.step sound e) (sound.step e)

/-- No flow asks for more than one submission. -/
theorem Sound.submissions_le (h : v.Sound) (here : v.flows[i]? = some f) :
    (f.asked.filter Need.isSubmission).length ≤ 1 := by
  cases hkind : f.kind? with
  | none =>
    -- What was asked for only reads the round.
    obtain ⟨-, -, hasked⟩ := h.errand i f here hkind
    have hnone : f.asked.filter Need.isSubmission = [] := by
      apply List.filter_eq_nil_iff.2
      intro need hneed
      rw [hasked need hneed]
      nofun
    rw [hnone]
    exact Nat.zero_le 1
  | some kind =>
    obtain ⟨participant, amount, hroutine⟩ := routine_of_kind? hkind
    obtain ⟨r, hcourse, -⟩ := (h.acts i f kind participant amount here hroutine).course
    exact hcourse.submissions_le

/-! ## Steps that change nothing else -/

/-- A flow that ends and does nothing else. -/
theorem carry_finish {t : Turn} {o : Outcome} (client : t.client = v.client)
    (orders : t.orders = []) (move : t.move = .done o) :
    v.carry i f t = { v with flows := v.flows.set i { f with stage := .finished o } } := by
  simp [carry, client, orders, move, Flow.moved, Move.stage, Move.asks, Move.launch?]

/-- **What is asked for while its kind is in flight is refused**, with an answer that on the screen
is what is known of the action in flight. -/
theorem step_of_pending (here : v.flows[i]? = some f) (due : f.stage = .due)
    (invoked : v.client.invoked? f.routine = some (kind, participant, amount))
    (pending : v.client.actions.isPending kind = true) :
    v.step (.news i .turn) = { v with
      client := v.client.typing f.routine
      flows := v.flows.set i { f with stage := .finished ((v.client.typing f.routine).told f.routine
        (.error (Actions.inProgress kind))) } } := by
  simp only [step, afterNews, here, turn?, due, begin_of_pending invoked pending]
  simp [carry, Turn.finish, Flow.hears, Flow.moved, Move.stage, Move.asks, Move.launch?]

/-- **What is asked for otherwise launches its action.** -/
theorem step_of_idle (here : v.flows[i]? = some f) (due : f.stage = .due)
    (invoked : v.client.invoked? f.routine = some (kind, participant, amount))
    (idle : v.client.actions.isPending kind = false) :
    (v.step (.news i .turn)).calls = v.calls ∧
      (v.step (.news i .turn)).flows = v.flows.set i { f with
        stage := .waiting (.action kind participant amount) f.routine.outer
        launched := some v.flows.length } ++ [.ofRoutine (.action kind participant amount)] := by
  obtain ⟨note, hbegin⟩ := begin_of_idle invoked idle
  simp only [step, afterNews, here, turn?, due, hbegin]
  simp [carry, Flow.hears, Flow.moved, Move.stage, Move.asks, Move.launch?, Need.isOutward]

/-- Whoever waits for an action has asked for it. -/
theorem Sound.asked_of_acting (h : v.Sound) (here : v.flows[i]? = some f) {ps : List Point}
    (waiting : f.stage = .waiting (.action kind participant amount) ps) :
    f.routine.isOpen = true ∧ f.routine.asked? = some kind := by
  cases hkind : f.kind? with
  | none =>
    obtain ⟨hopen, herrand, -⟩ := h.errand i f here hkind
    rw [waiting] at herrand
    cases herrand with
    | acting asks => exact ⟨hopen, asks⟩
  | some k =>
    -- No action waits for another one.
    rcases h.need_cases here hkind waiting with hneed | hneed <;> cases hneed

/-- **Whoever waits for an action and hears of something** is told of it, and that is all. -/
theorem Sound.step_acting (h : v.Sound) (here : v.flows[i]? = some f) {ps : List Point}
    (waiting : f.stage = .waiting (.action kind participant amount) ps) {n : News} {o : Outcome}
    (heard : v.heard? f (.action kind participant amount) n = some o) :
    v.step (.news i n) = { v with
      flows := v.flows.set i { f with stage := .finished (v.client.told f.routine o) } } := by
  obtain ⟨-, hasks⟩ := h.asked_of_acting here waiting
  obtain ⟨rfl, -⟩ := h.acting i f kind participant amount ps here waiting
  have hhears : f.hears n = f := by cases n <;> first | rfl | cases heard
  have hturn : v.turn? f n = some (v.client.proceed o f.routine.outer) := by
    simp only [turn?, waiting, heard, Option.map_some]
  simp only [Voyage.step, afterNews, here, hturn, hhears]
  obtain ⟨hclient, horders, hmove⟩ := proceed_acting (c := v.client) (o := o) hasks
  exact carry_finish hclient horders hmove

/-- Whoever waits for an action may be cancelled, and that is all. -/
theorem Sound.step_cancel (h : v.Sound) (here : v.flows[i]? = some f) {ps : List Point}
    (waiting : f.stage = .waiting (.action kind participant amount) ps) :
    v.step (.news i .cancel) =
      { v with flows := v.flows.set i { f with stage := .finished (.error .cancelled) } } := by
  have hopen := (h.asked_of_acting here waiting).1
  have htold : v.client.told f.routine (.error .cancelled) = .error .cancelled := by
    cases f.routine <;> rfl
  rw [← htold]
  exact h.step_acting here waiting (by simp only [heard?, hopen, if_true])

/-- Nobody cancels an action. -/
theorem step_cancel_action (here : v.flows[i]? = some f) (hkind : f.kind? = some kind) :
    v.step (.news i .cancel) = v := by
  obtain ⟨p, a, hroutine⟩ := routine_of_kind? hkind
  have hclosed : f.routine.isOpen = false := by
    rw [hroutine]
    rfl
  have hturn : v.turn? f .cancel = none := by
    cases hstage : f.stage <;> simp [turn?, hstage, heard?, hclosed]
  simp only [step, afterNews, here, hturn]

/-! ## Orchestration -/

/-- The latest action of a kind, if there is one. -/
theorem exists_latest (v : Voyage) (kind : ActionKind) :
    (∀ (i : Nat) participant amount, v.routineAt? i ≠ some (.action kind participant amount)) ∨
      ∃ (i : Nat) (f : Flow), v.flows[i]? = some f ∧ f.kind? = some kind ∧ v.Latest kind i := by
  classical
  by_cases hsome : ∃ (i : Nat) (p : String) (a : Value), v.routineAt? i = some (.action kind p a)
  · right
    let P (j : Nat) : Prop := ∃ p a, v.routineAt? j = some (.action kind p a)
    have hle {j : Nat} (hj : P j) : j ≤ v.flows.length := by
      obtain ⟨p, a, hj⟩ := hj
      exact Nat.le_of_lt (lt_of_routineAt? hj)
    obtain ⟨i, hi⟩ := hsome
    obtain ⟨p, a, hlast⟩ : P (Nat.findGreatest P v.flows.length) :=
      Nat.findGreatest_spec (hle hi) hi
    obtain ⟨f, here, hroutine⟩ := Option.map_eq_some_iff.1 hlast
    exact ⟨_, f, here, kind?_of_routine hroutine, fun j q b hj =>
      Nat.le_findGreatest (hle ⟨q, b, hj⟩) ⟨q, b, hj⟩⟩
  · exact .inl fun i p a hi => hsome ⟨i, p, a, hi⟩

/-- **How the actions of a voyage are orchestrated**, whatever the gateway does and in whatever
order everything happens. -/
theorem orchestrated_run (settings : Settings) (signer : Option Signer) (desk : Desk) (nonce : Nat)
    (now : Moment) (ledger : Ledger) (es : List Event) :
    ((start settings signer desk nonce now ledger).after es).Orchestrated := by
  have h₀ := sound_start settings signer desk nonce now ledger
  have h := h₀.after es
  have hrecorded : ((start settings signer desk nonce now ledger).after es).Recorded :=
    Recorded.after (fun _ => rfl) h₀ es
  generalize (start settings signer desk nonce now ledger).after es = v at h hrecorded
  have latest {i : Nat} {f : Flow} {kind : ActionKind} (here : v.flows[i]? = some f)
      (hkind : f.kind? = some kind) (under : f.stage.isOver = false) : v.Latest kind i := by
    obtain ⟨p, a, hroutine⟩ := routine_of_kind? hkind
    exact (h.acts i f kind p a here hroutine).latest under
  constructor
  case single =>
    intro i j f g kind hi hj hf hg hunder hunder'
    exact Nat.le_antisymm ((latest hj hg hunder').le hi hf) ((latest hi hf hunder).le hj hg)
  case pending_iff =>
    intro kind
    constructor
    · intro hpending
      rcases v.exists_latest kind with hnone | ⟨i, f, here, hkind, hl⟩
      · rw [(h.idle kind hnone).2] at hpending
        cases hpending
      · obtain ⟨p, a, hroutine⟩ := routine_of_kind? hkind
        rw [(h.acts i f kind p a here hroutine).pending hl] at hpending
        exact ⟨i, f, here, hkind, by simpa using hpending⟩
    · rintro ⟨i, f, here, hkind, hunder⟩
      obtain ⟨p, a, hroutine⟩ := routine_of_kind? hkind
      rw [(h.acts i f kind p a here hroutine).pending (latest here hkind hunder), hunder]
      rfl
  case refused =>
    intro i f kind p a here due invoked houter pending
    have hclient : v.client.typing f.routine = v.client := by
      cases hroutine : f.routine with
      | report => rw [hroutine] at houter; cases houter
      | _ => rfl
    rw [step_of_pending here due invoked pending, hclient, told_alone houter]
  case accepted =>
    intro i f kind p a here due invoked idle
    exact step_of_idle here due invoked idle
  case permitted =>
    intro e i call hmem
    have m := step_moves h e
    generalize v.step e = v' at m hmem
    -- Of all moves only those of an action ask for a submission, and of those only the first.
    cases m with
    | rest flows calls same => exact .inl (calls ▸ hmem)
    | setOut isOpen => exact .inl hmem
    | launch here due invoked idle becomes move =>
      simp only [carry, move, Move.asks, Need.isOutward, Bool.false_eq_true, if_false,
        List.map_nil, List.append_nil] at hmem
      exact .inl hmem
    | stroll here isOpen turn strolls =>
      rcases List.mem_append.1 hmem with hmem | hmem
      · exact .inl hmem
      · obtain ⟨need, hneed, heq⟩ := List.mem_map.1 hmem
        cases heq
        cases strolls.asks _ hneed
    | pursue here routine under pursues permits =>
      rcases List.mem_append.1 hmem with hmem | hmem
      · exact .inl hmem
      · obtain ⟨need, hneed, heq⟩ := List.mem_map.1 hmem
        cases heq
        obtain ⟨due, rfl, hpermits⟩ := permits call hneed
        exact .inr ⟨_, _, _, _, rfl, here, due, routine, hpermits⟩
  case once =>
    intro i
    rw [hrecorded i]
    cases here : v.flows[i]? with
    | none => exact Nat.zero_le 1
    | some f => exact h.submissions_le here
  case settled =>
    intro kind hidle
    rcases v.exists_latest kind with hnone | ⟨i, f, here, hkind, hl⟩
    · left
      refine ⟨fun i f here hkind => ?_, (h.idle kind hnone).1⟩
      obtain ⟨p, a, hroutine⟩ := routine_of_kind? hkind
      exact hnone i p a (routineAt?_eq_some here hroutine)
    · right
      obtain ⟨p, a, hroutine⟩ := routine_of_kind? hkind
      have hacts := h.acts i f kind p a here hroutine
      obtain ⟨r, hcourse, hresult⟩ := hacts.course
      have hover : f.stage.isOver = true := by simpa [hidle] using hacts.pending hl
      rw [← hresult hl]
      refine ⟨i, f, here, hkind, hl, (hcourse.result_cases hroutine).imp_right ?_⟩
      rintro ⟨hno, ⟨hunder, -⟩ | ⟨-, hfailed⟩⟩
      · rw [hover] at hunder
        cases hunder
      · exact ⟨hno, hfailed⟩
  case abandoned =>
    intro i f kind p a ps here waiting
    exact h.step_cancel here waiting
  case unstoppable =>
    intro i f kind here hkind
    exact step_cancel_action here hkind

end Voyage
end Plunder
