import Plunder.Proofs.Client.Voyage

/-!
# Soundness of voyages

What holds of a voyage at any time, whatever happens on it. An event moves one flow at most; the
invariant is kept by each kind of move, and so by every run.

Main statements:
- `Sound.quiet`, `Sound.launch`: a step that launches nothing, and one that launches an action
- `Sound.step`, `Sound.after`: every event and every run
- `sound_start`: how a voyage begins
-/

namespace Plunder
namespace Voyage

open Client

variable {v : Voyage} {f : Flow} {n : News} {t : Turn} {kind : ActionKind} {participant : String}
  {amount : Value} {i : Nat}

/-! ## Chart loads -/

theorem isLoad_order {loads : List Stage} (h : ∀ s ∈ loads, IsLoad s) (os : List Order) :
    ∀ s ∈ os.foldl order loads, IsLoad s := by
  induction os generalizing loads with
  | nil => exact h
  | cons o os ih =>
    apply ih
    cases o with
    | callOff => exact h
    | begin =>
      intro s hs
      rcases List.mem_append.1 hs with hs | hs
      · exact h s hs
      · obtain rfl := List.mem_singleton.1 hs
        trivial

/-- Chart loads stay what they are. -/
theorem Sound.isLoad_step (h : v.Sound) (e : Event) : ∀ s ∈ (v.step e).loads, IsLoad s := by
  have hset (number : Nat) {s' : Stage} (hs' : IsLoad s') :
      ∀ s ∈ v.loads.set number s', IsLoad s := by
    intro s hs
    rcases List.mem_or_eq_of_mem_set hs with hs | rfl
    · exact h.loads s hs
    · exact hs'
  cases e with
  | setOut r =>
    simp only [step]
    split <;> exact h.loads
  | news flow n =>
    simp only [step, afterNews]
    split
    · split
      · exact isLoad_order h.loads _
      · exact h.loads
    · exact h.loads
  | load number o =>
    simp only [step, Voyage.afterLoad]
    split
    · exact hset number ⟨rfl, _, rfl⟩
    · next need ps hload =>
      obtain ⟨-, generation, rfl⟩ := h.loads _ (List.mem_of_getElem? hload)
      apply hset
      rw [(proceed_singleton v.client o (.chart generation)).2]
      show IsLoad (v.client.afterFetch generation o).move.stage
      have hover := afterFetch_over v.client generation o
      cases hstage : (v.client.afterFetch generation o).move.stage with
      | finished o => trivial
      | _ => simp [hstage, Stage.isOver] at hover
    · exact h.loads
  | dismiss => exact isLoad_order h.loads _
  | reach flow =>
    simp only [step]
    split <;> exact h.loads
  | touch t => exact h.loads
  | ledger e => exact h.loads

/-! ## Every step of a flow -/

/-- What was asked for at the beginning of an action is the action. -/
theorem names_of_invoked {c : Client} {r : Routine}
    (h : c.invoked? r = some (kind, participant, amount)) : r.Names kind participant amount := by
  cases r with
  | submitHaul p a =>
    cases h
    refine ⟨rfl, ?_, ?_⟩ <;> rintro _ ⟨⟩ <;> rfl
  | report a p =>
    simp only [invoked?] at h
    split at h <;> cases h
    refine ⟨rfl, ?_, ?_⟩ <;> rintro _ ⟨⟩ <;> rfl
  | advanceRound =>
    cases h
    rfl
  | setSail =>
    simp only [invoked?] at h
    split at h <;> cases h
    rfl
  | _ => cases h

/-- A flow takes a step and launches nothing. -/
theorem Sound.quiet (h : v.Sound) (here : v.flows[i]? = some f) (quiet : t.move.launch? = none)
    (errand : f.kind? = none →
      Errand f.routine t.move.stage ∧ ∀ need ∈ t.move.asks, need = .readings)
    (acts : ∀ k p a, f.routine = .action k p a → f.stage.isOver = false ∧
      (v.carry i (f.hears n) t).Acts i ((f.hears n).moved t.move v.flows.length) k p a)
    (others : ∀ k, f.kind? ≠ some k → t.client.actions.result k = v.client.actions.result k ∧
      t.client.actions.isPending k = v.client.actions.isPending k)
    (loads : ∀ s ∈ (v.carry i (f.hears n) t).loads, IsLoad s) :
    (v.carry i (f.hears n) t).Sound := by
  have hroutine (j : Nat) : (v.carry i (f.hears n) t).routineAt? j = v.routineAt? j := by
    rw [routineAt?_carry here (hears_routine f n), quiet]
    split
    · next hj =>
      subst hj
      rw [routineAt?, List.getElem?_eq_none (Nat.le_refl _)]
      rfl
    · rfl
  have hcases {j : Nat} {g : Flow} (hj : (v.carry i (f.hears n) t).flows[j]? = some g) :
      (j = i ∧ g = (f.hears n).moved t.move v.flows.length) ∨ (j ≠ i ∧ v.flows[j]? = some g) := by
    rcases carry_cases hj with hself | hother | ⟨-, r, hr, -⟩
    · exact .inl hself
    · exact .inr hother
    · rw [quiet] at hr
      cases hr
  have hlaunched (j : Nat) (g : Flow) (hj : (v.carry i (f.hears n) t).flows[j]? = some g) :
      ∃ g', v.flows[j]? = some g' ∧ g.launched = g'.launched ∧ g.routine = g'.routine := by
    rcases hcases hj with ⟨rfl, rfl⟩ | ⟨-, hj⟩
    · exact ⟨f, here, by simp [Flow.moved, quiet], by simp [Flow.moved]⟩
    · exact ⟨g, hj, rfl, rfl⟩
  constructor
  case errand =>
    intro j g hj hkind
    rcases hcases hj with ⟨rfl, rfl⟩ | ⟨-, hj⟩
    · have hkind : f.kind? = none := by simpa [Flow.kind?, Flow.moved] using hkind
      obtain ⟨hopen, -, hasked⟩ := h.errand j f here hkind
      obtain ⟨hstage, hasks⟩ := errand hkind
      rw [show ((f.hears n).moved t.move v.flows.length).routine = f.routine from
        hears_routine f n]
      refine ⟨hopen, hstage, fun need hneed => ?_⟩
      rcases List.mem_append.1 hneed with hneed | hneed
      · exact hasked need (by simpa using hneed)
      · exact hasks need hneed
    · exact h.errand j g hj hkind
  case acts =>
    intro j g k p a hj hg
    rcases hcases hj with ⟨rfl, rfl⟩ | ⟨hne, hj⟩
    · exact (acts k p a (by simpa [Flow.moved] using hg)).2
    · have hold := h.acts j g k p a hj hg
      by_cases hk : f.kind? = some k
      · -- Of one kind only the latest is under way, so this one is over and forgotten.
        obtain ⟨q, b, hf⟩ := routine_of_kind? hk
        have hlatest := (h.acts i f k q b here hf).latest (acts k q b hf).1
        have hnot : ¬ v.Latest k j := fun hl => hne (Nat.le_antisymm
          (hlatest.le hj (kind?_of_routine hg)) (hl.le here hk))
        have hnot' : ¬ (v.carry i (f.hears n) t).Latest k j := by
          simpa only [Latest, hroutine] using hnot
        obtain ⟨r, hcourse, -⟩ := hold.course
        exact ⟨⟨r, hcourse, fun hl => (hnot' hl).elim⟩, fun hl => (hnot' hl).elim,
          fun hover => (hnot (hold.latest hover)).elim⟩
      · exact hold.congr (fun _ _ _ => by rw [hroutine]) (others k hk)
  case idle =>
    intro k hk
    simp only [hroutine] at hk
    have hf : f.kind? ≠ some k := fun hf => by
      obtain ⟨q, b, hf⟩ := routine_of_kind? hf
      exact hk i q b (routineAt?_eq_some here hf)
    obtain ⟨hresult, hpending⟩ := h.idle k hk
    exact ⟨(others k hf).1.trans hresult, (others k hf).2.trans hpending⟩
  case due =>
    intro j g hj hg
    rcases hcases hj with ⟨rfl, rfl⟩ | ⟨-, hj⟩
    · replace hg : t.move.stage = .due := hg
      cases hmove : t.move <;> rw [hmove] at hg <;> cases hg
    · exact h.due j g hj hg
  case launched =>
    intro j g j' hj hg
    obtain ⟨g', hj, hl, hr⟩ := hlaunched j g hj
    rw [hr]
    simp only [hroutine]
    exact h.launched j g' j' hj (hl ▸ hg)
  case acting =>
    intro j g k p a ps hj hg
    simp only [hroutine]
    rcases hcases hj with ⟨rfl, rfl⟩ | ⟨-, hj⟩
    · replace hg : t.move.stage = _ := hg
      cases hmove : t.move with
      | done o =>
        rw [hmove] at hg
        cases hg
      | wait need qs =>
        rw [hmove] at hg
        cases hg
        rw [hmove] at quiet
        cases quiet
    · exact h.acting j g k p a ps hj hg
  case distinct =>
    intro j j' g g' m hj hj' hm hm'
    obtain ⟨g₁, hj, hl, -⟩ := hlaunched j g hj
    obtain ⟨g₂, hj', hl', -⟩ := hlaunched j' g' hj'
    exact h.distinct j j' g₁ g₂ m hj hj' (hl ▸ hm) (hl' ▸ hm')
  case loads => exact loads

/-- Something is asked for. -/
theorem Sound.setOut (h : v.Sound) {r : Routine} (isOpen : r.isOpen = true) :
    Sound { v with flows := v.flows ++ [.ofRoutine r] } := by
  have hcases {j : Nat} {g : Flow} (hj : (v.flows ++ [.ofRoutine r])[j]? = some g) :
      v.flows[j]? = some g ∨ j = v.flows.length ∧ g = .ofRoutine r := by
    rw [List.getElem?_append] at hj
    split at hj
    · exact .inl hj
    · rw [List.getElem?_singleton] at hj
      split at hj
      · exact .inr ⟨by omega, (Option.some.inj hj).symm⟩
      · cases hj
  have hroutine {j : Nat} {r' : Routine} (hj : v.routineAt? j = some r') :
      routineAt? { v with flows := v.flows ++ [.ofRoutine r] } j = some r' := by
    rw [← hj, routineAt?, List.getElem?_append_left (lt_of_routineAt? hj)]
    rfl
  have hactions (j : Nat) (k : ActionKind) (p : String) (a : Value) :
      routineAt? { v with flows := v.flows ++ [.ofRoutine r] } j = some (.action k p a) ↔
        v.routineAt? j = some (.action k p a) := by
    refine ⟨fun hj => ?_, hroutine⟩
    obtain ⟨g, hg, hgr⟩ := Option.map_eq_some_iff.1 hj
    rcases hcases hg with hg | ⟨-, rfl⟩
    · rw [routineAt?, hg]
      exact congrArg some hgr
    · replace hgr : r = .action k p a := hgr
      rw [hgr] at isOpen
      cases isOpen
  constructor
  case errand =>
    intro j g hj hkind
    rcases hcases hj with hj | ⟨-, rfl⟩
    · exact h.errand j g hj hkind
    · exact ⟨isOpen, .due, List.forall_mem_nil _⟩
  case acts =>
    intro j g k p a hj hg
    rcases hcases hj with hj | ⟨-, rfl⟩
    · exact (h.acts j g k p a hj hg).congr (fun j p a => hactions j k p a) ⟨rfl, rfl⟩
    · replace hg : r = .action k p a := hg
      rw [hg] at isOpen
      cases isOpen
  case idle =>
    intro k hk
    exact h.idle k fun j p a hj => hk j p a (hroutine hj)
  case due =>
    intro j g hj hg
    rcases hcases hj with hj | ⟨-, rfl⟩
    · exact h.due j g hj hg
    · rfl
  case launched =>
    intro j g m hj hm
    rcases hcases hj with hj | ⟨-, rfl⟩
    · obtain ⟨k, p, a, hm, hnames⟩ := h.launched j g m hj hm
      exact ⟨k, p, a, hroutine hm, hnames⟩
    · cases hm
  case acting =>
    intro j g k p a ps hj hg
    rcases hcases hj with hj | ⟨-, rfl⟩
    · obtain ⟨hps, m, hm, hr⟩ := h.acting j g k p a ps hj hg
      exact ⟨hps, m, hm, hroutine hr⟩
    · cases hg
  case distinct =>
    intro j j' g g' m hj hj' hm hm'
    rcases hcases hj with hj | ⟨-, rfl⟩
    · rcases hcases hj' with hj' | ⟨-, rfl⟩
      · exact h.distinct j j' g g' m hj hj' hm hm'
      · cases hm'
    · cases hm
  case loads => exact h.loads

/-- An action is launched; all others of its kind are over. -/
theorem Sound.launch (h : v.Sound) (here : v.flows[i]? = some f)
    (invoked : v.client.invoked? f.routine = some (kind, participant, amount))
    (idle : v.client.actions.isPending kind = false)
    (becomes : v.client.actions.Becomes kind (.pending kind) true t.client.actions)
    (move : t.move = .wait (.action kind participant amount) f.routine.outer)
    (loads : ∀ s ∈ (v.carry i f t).loads, IsLoad s) : (v.carry i f t).Sound := by
  have hi : i < v.flows.length := (List.getElem?_eq_some_iff.1 here).1
  have hlaunch : t.move.launch? = some (.action kind participant amount) := by rw [move]; rfl
  have hmoved : f.moved t.move v.flows.length =
      { f with stage := .waiting (.action kind participant amount) f.routine.outer
               launched := some v.flows.length } := by
    simp [Flow.moved, move, Move.stage, Move.asks, Move.launch?, Need.isOutward]
  have hroutine (j : Nat) : (v.carry i f t).routineAt? j =
      if j = v.flows.length then some (.action kind participant amount) else v.routineAt? j := by
    rw [routineAt?_carry here rfl, hlaunch]
  have hkept {j : Nat} {r : Routine} (hj : v.routineAt? j = some r) :
      (v.carry i f t).routineAt? j = some r := by
    rw [hroutine, if_neg (Nat.ne_of_lt (lt_of_routineAt? hj)), hj]
  have hnext : (v.carry i f t).routineAt? v.flows.length =
      some (.action kind participant amount) := by
    rw [hroutine, if_pos rfl]
  have hclosed : f.kind? = none := by
    cases hr : f.routine with
    | action k p a =>
      rw [hr] at invoked
      cases invoked
    | _ => simp only [Flow.kind?, hr]
  obtain ⟨hopen, -, hasked⟩ := h.errand i f here hclosed
  -- A flow is now the one that launched the action, one that was there before, or the action.
  have hcases {j : Nat} {g : Flow} (hj : (v.carry i f t).flows[j]? = some g) :
      (j = i ∧ g = { f with
        stage := .waiting (.action kind participant amount) f.routine.outer
        launched := some v.flows.length }) ∨ (j ≠ i ∧ v.flows[j]? = some g) ∨
      j = v.flows.length ∧ g = .ofRoutine (.action kind participant amount) := by
    rcases carry_cases hj with ⟨rfl, rfl⟩ | hother | ⟨hlast, r, hr, rfl⟩
    · exact .inl ⟨rfl, hmoved⟩
    · exact .inr (.inl hother)
    · rw [hlaunch] at hr
      cases hr
      exact .inr (.inr ⟨hlast, rfl⟩)
  constructor
  case errand =>
    intro j g hj hkind
    rcases hcases hj with ⟨rfl, rfl⟩ | ⟨-, hj⟩ | ⟨-, rfl⟩
    · exact ⟨hopen, .acting (asked?_of_invoked invoked), hasked⟩
    · exact h.errand j g hj hkind
    · cases hkind
  case acts =>
    intro j g k p a hj hg
    rcases hcases hj with ⟨rfl, rfl⟩ | ⟨hne, hj⟩ | ⟨rfl, rfl⟩
    · replace hg : f.routine = .action k p a := hg
      rw [hg] at hopen
      cases hopen
    · have hold := h.acts j g k p a hj hg
      by_cases hk : k = kind
      · subst hk
        -- The one before is over, and not the latest any more.
        have hover : g.stage.isOver = true := by
          cases hstage : g.stage.isOver with
          | true => rfl
          | false =>
            have := hold.pending (hold.latest hstage)
            rw [idle, hstage] at this
            cases this
        have hlt : j < v.flows.length := (List.getElem?_eq_some_iff.1 hj).1
        have hnot : ¬ (v.carry i f t).Latest k j := fun hl =>
          Nat.not_le_of_lt hlt (hl v.flows.length participant amount hnext)
        obtain ⟨r, hcourse, -⟩ := hold.course
        refine ⟨⟨r, hcourse, fun hl => (hnot hl).elim⟩, fun hl => (hnot hl).elim, fun hno => ?_⟩
        rw [hover] at hno
        cases hno
      · refine hold.congr (fun m q b => ?_) (becomes.others k hk)
        refine ⟨fun hm => ?_, hkept⟩
        rw [hroutine] at hm
        split at hm
        · cases hm
          exact (hk rfl).elim
        · exact hm
    · cases hg
      constructor
      case course => exact ⟨_, .due, fun _ => becomes.result_eq.symm⟩
      case pending => exact fun _ => becomes.pending_eq
      case latest =>
        intro _ m q b hm
        rw [hroutine] at hm
        split at hm
        · next hlast => exact Nat.le_of_eq hlast
        · exact Nat.le_of_lt (lt_of_routineAt? hm)
  case idle =>
    intro k hk
    have hne : k ≠ kind := by
      rintro rfl
      exact hk _ _ _ hnext
    obtain ⟨hresult, hpending⟩ := h.idle k fun m p a hm => hk m p a (hkept hm)
    exact ⟨(becomes.others k hne).1.trans hresult, (becomes.others k hne).2.trans hpending⟩
  case due =>
    intro j g hj hg
    rcases hcases hj with ⟨rfl, rfl⟩ | ⟨-, hj⟩ | ⟨-, rfl⟩
    · cases hg
    · exact h.due j g hj hg
    · rfl
  case launched =>
    intro j g m hj hm
    rcases hcases hj with ⟨rfl, rfl⟩ | ⟨-, hj⟩ | ⟨-, rfl⟩
    · cases hm
      exact ⟨kind, participant, amount, hnext, names_of_invoked invoked⟩
    · obtain ⟨k, p, a, hr, hnames⟩ := h.launched j g m hj hm
      exact ⟨k, p, a, hkept hr, hnames⟩
    · cases hm
  case acting =>
    intro j g k p a ps hj hg
    rcases hcases hj with ⟨rfl, rfl⟩ | ⟨-, hj⟩ | ⟨-, rfl⟩
    · cases hg
      exact ⟨rfl, _, rfl, hnext⟩
    · obtain ⟨hps, m, hm, hr⟩ := h.acting j g k p a ps hj hg
      exact ⟨hps, m, hm, hkept hr⟩
    · cases hg
  case distinct =>
    -- The number of the action is new.
    have hold {j m : Nat} {g : Flow} (hj : v.flows[j]? = some g) (hm : g.launched = some m) :
        m ≠ v.flows.length := by
      obtain ⟨k, p, a, hr, -⟩ := h.launched j g m hj hm
      exact Nat.ne_of_lt (lt_of_routineAt? hr)
    intro j j' g g' m hj hj' hm hm'
    rcases hcases hj with ⟨rfl, rfl⟩ | ⟨-, hg⟩ | ⟨-, rfl⟩
    · rcases hcases hj' with ⟨rfl, rfl⟩ | ⟨-, hg'⟩ | ⟨-, rfl⟩
      · rfl
      · cases hm
        exact (hold hg' hm' rfl).elim
      · cases hm'
    · rcases hcases hj' with ⟨rfl, rfl⟩ | ⟨-, hg'⟩ | ⟨-, rfl⟩
      · cases hm'
        exact (hold hg hm rfl).elim
      · exact h.distinct j j' g g' m hg hg' hm hm'
      · cases hm'
    · cases hm
  case loads => exact loads

/-! ## Every event -/

/-- **What holds of a voyage holds after every event.** -/
theorem Sound.step (h : v.Sound) (e : Event) : (v.step e).Sound := by
  have hloads := h.isLoad_step e
  -- From here on only the move counts, and no longer the event that made it.
  have m := step_moves h e
  generalize v.step e = v' at m hloads
  cases m with
  | rest flows calls same =>
    have hroutine : v'.routineAt? = v.routineAt? := by
      funext j
      rw [routineAt?, routineAt?, flows]
    constructor
    case errand => rw [flows]; exact h.errand
    case acts =>
      intro j g k p a hj hg
      rw [flows] at hj
      exact (h.acts j g k p a hj hg).congr (fun _ _ _ => by rw [hroutine]) (same k)
    case idle =>
      intro k hk
      rw [hroutine] at hk
      obtain ⟨hresult, hpending⟩ := h.idle k hk
      exact ⟨(same k).1.trans hresult, (same k).2.trans hpending⟩
    case due => rw [flows]; exact h.due
    case launched => rw [flows, hroutine]; exact h.launched
    case acting => rw [flows, hroutine]; exact h.acting
    case distinct => rw [flows]; exact h.distinct
    case loads => exact hloads
  | setOut isOpen => exact h.setOut isOpen
  | launch here due invoked idle becomes move =>
    exact h.launch here invoked idle becomes move hloads
  | @stroll i n f t here isOpen turn strolls =>
    refine h.quiet here strolls.quiet (fun _ => ⟨strolls.errand, strolls.asks⟩) ?_
      (fun k _ => strolls.same k) hloads
    intro k p a hf
    rw [hf] at isOpen
    cases isOpen
  | @pursue i n f t kind participant amount here routine under pursues permits =>
    have hkind := kind?_of_routine routine
    refine h.quiet here pursues.quiet (fun hnone => ?_) ?_ ?_ hloads
    · rw [hkind] at hnone
      cases hnone
    · intro k p a hf
      rw [routine] at hf
      cases hf
      have hlatest := (h.acts i f kind participant amount here routine).latest under
      have hlatest' : (v.carry i (f.hears n) t).Latest kind i := by
        intro j q b hj
        refine hlatest j q b ?_
        rw [routineAt?_carry here (hears_routine f n), pursues.quiet] at hj
        split at hj
        · cases hj
        · exact hj
      refine ⟨under, ⟨⟨_, ?_, fun _ => rfl⟩, fun _ => pursues.pending_eq, fun _ => hlatest'⟩⟩
      have hcourse := pursues.course
      rw [← hears_asked f n] at hcourse
      exact hcourse
    · intro k hk
      refine pursues.others k fun heq => hk ?_
      rw [hkind, heq]

theorem Sound.after (h : v.Sound) (es : List Event) : (v.after es).Sound := by
  induction es generalizing v with
  | nil => exact h
  | cons e es ih => exact ih (h.step e)

/-- What an action waits for is an answer of the gateway or its turn. -/
theorem Sound.need_cases (h : v.Sound) (here : v.flows[i]? = some f) (hkind : f.kind? = some kind)
    {need : Need} {ps : List Point} (waiting : f.stage = .waiting need ps) :
    need.isOutward = true ∨ need = .turn := by
  obtain ⟨participant, amount, hroutine⟩ := routine_of_kind? hkind
  obtain ⟨r, hcourse, -⟩ := (h.acts i f kind participant amount here hroutine).course
  rw [waiting] at hcourse
  exact hcourse.need_cases

theorem sound_start (settings : Settings) (signer : Option Signer) (desk : Desk) (nonce : Nat)
    (now : Moment) (ledger : Ledger) :
    (start settings signer desk nonce now ledger).Sound := by
  have hnone (i : Nat) : (start settings signer desk nonce now ledger).flows[i]? = none := rfl
  constructor
  case idle =>
    intro kind _
    cases kind <;> exact ⟨rfl, rfl⟩
  case loads =>
    show ∀ s ∈ [], IsLoad s
    exact List.forall_mem_nil _
  all_goals
    intro i
    simp only [hnone, reduceCtorEq, false_implies, implies_true]

end Voyage
end Plunder
