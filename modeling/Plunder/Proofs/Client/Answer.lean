import Plunder.Proofs.Client.Orchestration

/-!
# What the screen answers

Whoever asks the screen for an action is answered with its result. The result of an action that
succeeded is its own. A failure or a refusal is looked up in what the client keeps for the kind, and
that may be the result of another action.

Main statements:
- `answering_run`: when the screen answers with a success, and whose success it is
- `succeeded_refused`: a refused report that is answered with the success of another one
-/

namespace Plunder

/-- The kind of action that the screen is asked for, if it is. -/
def Routine.screened? : Routine → Option ActionKind
  | .report .. => some .haul
  | .setSail => some .advance
  | _ => none

namespace Voyage

/-! ## Definitions -/

/-- A flow, for which the screen was asked for an action, ends at an event with a result. -/
structure Answers (v : Voyage) (e : Event) (flow : Nat) (f : Flow) (kind : ActionKind)
    (r : TransactionResult) : Prop where
  here : v.flows[flow]? = some f
  screened : f.routine.screened? = some kind
  under : f.stage.isOver = false
  answered : (v.step e).flows[flow]?.map Flow.stage = some (.finished (.ok (.result (some r))))

/-- The action that a flow has launched itself was confirmed. -/
def OwnConfirmed (v : Voyage) (f : Flow) (txHash : String) : Prop :=
  ∃ (j : Nat) (g : Flow), f.launched = some j ∧ v.flows[j]? = some g ∧ g.Confirmed txHash

/-- The action of a kind that was launched last was confirmed. -/
def LatestConfirmed (v : Voyage) (kind : ActionKind) (txHash : String) : Prop :=
  ∃ (j : Nat) (g : Flow), v.flows[j]? = some g ∧ g.kind? = some kind ∧ v.Latest kind j ∧
    g.Confirmed txHash

/-- How the screen answers those who asked it for an action. -/
structure Answering (v : Voyage) : Prop where
  /-- Whose own action was confirmed is answered with its success. -/
  own : ∀ e i f kind r txHash, v.Answers e i f kind r → v.OwnConfirmed f txHash →
    r = .success kind txHash
  /-- Everybody else is answered with what the client keeps for the kind. -/
  other : ∀ e i f kind r, v.Answers e i f kind r → (∀ txHash, ¬ v.OwnConfirmed f txHash) →
    r = v.client.actions.result kind
  /-- That is a success if and only if the latest action of the kind was confirmed. -/
  succeeded_iff : ∀ e i f kind r, v.Answers e i f kind r → (r.succeeded = true ↔
    (∃ txHash, v.OwnConfirmed f txHash) ∨ ∃ txHash, v.LatestConfirmed kind txHash)
  /-- So an answer is a success if and only if the own action was confirmed, provided that one was
  launched and none of the kind after it. -/
  undisturbed : ∀ e i f kind r j, v.Answers e i f kind r → f.launched = some j →
    v.Latest kind j → (r.succeeded = true ↔ ∃ txHash, v.OwnConfirmed f txHash)
  /-- The own action is the one that was asked for, with its participant and its amount. -/
  named : ∀ (i : Nat) f j, v.flows[i]? = some f → f.launched = some j →
    ∃ kind participant amount, v.routineAt? j = some (.action kind participant amount) ∧
      f.routine.Names kind participant amount
  /-- It is nobody else's. -/
  distinct : ∀ (i i' : Nat) f f' j, v.flows[i]? = some f → v.flows[i']? = some f' →
    f.launched = some j → f'.launched = some j → i = i'
  /-- Whoever asks while an action of the kind is in flight launches nothing and is answered at
  once. -/
  refused : ∀ (i : Nat) f kind participant amount, v.flows[i]? = some f → f.stage = .due →
    f.routine.screened? = some kind →
      v.client.invoked? f.routine = some (kind, participant, amount) →
        v.client.actions.isPending kind = true → f.launched = none ∧
          v.Answers (.news i .turn) i f kind (v.client.actions.result kind)

open Client

variable {v : Voyage} {e : Event} {i : Nat} {f : Flow} {kind : ActionKind}
  {r : TransactionResult}

/-! ## Answers -/

/-- What the screen answers an action that has ended. -/
theorem told_of_screened (c : Client) {routine : Routine} {kind : ActionKind}
    (screened : routine.screened? = some kind) (o : Outcome) :
    c.told routine o = match o with
      | .ok reply => .ok reply
      | .error f => c.excuse kind f := by
  cases routine <;> cases screened <;> cases o <;> rfl

theorem asked?_of_screened {routine : Routine} {kind : ActionKind}
    (screened : routine.screened? = some kind) : routine.asked? = some kind := by
  cases routine <;> cases screened <;> rfl

theorem kind_of_names {routine : Routine} {k : ActionKind} {participant : String} {amount : Value}
    (screened : routine.screened? = some kind) (names : routine.Names k participant amount) :
    k = kind := by
  cases routine with
  | report a p =>
    cases screened
    exact names.1
  | setSail =>
    cases screened
    exact names
  | _ => cases screened

theorem kind?_of_screened (screened : f.routine.screened? = some kind) : f.kind? = none := by
  unfold Flow.kind?
  split
  · next hroutine =>
    rw [hroutine] at screened
    cases screened
  · rfl

/-- A closed screen has no result. -/
theorem begin_of_closed {c : Client} {routine : Routine} {kind : ActionKind}
    (screened : routine.screened? = some kind) (uninvoked : c.invoked? routine = none) :
    (c.begin routine).move = .done (.ok (.result none)) := by
  cases routine with
  | report a p =>
    simp only [invoked?] at uninvoked
    split at uninvoked
    · next hclosed =>
      simp only [begin, report, hclosed, if_true]
      rfl
    · cases uninvoked
  | setSail =>
    simp only [invoked?] at uninvoked
    split at uninvoked
    · next hclosed =>
      simp only [begin, setSail, hclosed, if_true]
      rfl
    · cases uninvoked
  | _ => cases screened

/-- Only a flow's own news end it. -/
theorem Answers.turn (h : v.Sound) (ans : v.Answers e i f kind r) :
    ∃ n t, e = .news i n ∧ v.turn? f n = some t ∧ t.move = .done (.ok (.result (some r))) := by
  obtain ⟨here, screened, under, answered⟩ := ans
  -- The flow is not over before the event.
  have hno : v.flows[i]?.map Flow.stage ≠ some (.finished (.ok (.result (some r)))) := by
    intro heq
    rw [here] at heq
    rw [show f.stage = _ from Option.some.inj heq] at under
    cases under
  have hlen : i < v.flows.length := (List.getElem?_eq_some_iff.1 here).1
  have hother {i' : Nat} {g : Flow} {t : Turn} (hi : i ≠ i') :
      (v.carry i' g t).flows[i]? = v.flows[i]? := by
    simp only [carry]
    rw [List.getElem?_append_left (by simpa using hlen), List.getElem?_set_ne (Ne.symm hi)]
  have hself {g : Flow} {t : Turn} :
      (v.carry i g t).flows[i]?.map Flow.stage = some t.move.stage := by
    simp only [carry]
    rw [List.getElem?_append_left (by simpa using hlen), List.getElem?_set_self hlen]
    rfl
  have m := step_moves h e
  generalize v.step e = v' at m answered
  cases m with
  | rest flows calls same => exact (hno (flows ▸ answered)).elim
  | setOut isOpen =>
    rw [List.getElem?_append_left hlen] at answered
    exact (hno answered).elim
  | @launch i' g k p a t there due invoked idle becomes move =>
    by_cases hi : i = i'
    · subst hi
      rw [hself, move] at answered
      cases answered
    · rw [hother hi] at answered
      exact (hno answered).elim
  | @stroll i' n g t there isOpen turn strolls =>
    by_cases hi : i = i'
    · subst hi
      obtain rfl : f = g := Option.some.inj (here.symm.trans there)
      rw [hself] at answered
      refine ⟨n, t, rfl, turn, ?_⟩
      cases hmove : t.move with
      | done o =>
        rw [hmove] at answered
        cases answered
        rfl
      | wait need ps =>
        rw [hmove] at answered
        cases answered
    · rw [hother hi] at answered
      exact (hno answered).elim
  | @pursue i' n g t k p a there routine under' pursues permits =>
    by_cases hi : i = i'
    · subst hi
      obtain rfl : f = g := Option.some.inj (here.symm.trans there)
      rw [routine] at screened
      cases screened
    · rw [hother hi] at answered
      exact (hno answered).elim

/-- **Who is answered**: someone who asks while an action of the kind is in flight, at once and with
what the client keeps for the kind; or someone whose own action has ended. -/
theorem Answers.cases (h : v.Sound) (ans : v.Answers e i f kind r) :
    (f.launched = none ∧ v.client.actions.isPending kind = true ∧
      r = v.client.actions.result kind) ∨
    ∃ (j : Nat) (g : Flow) (participant : String) (amount : Value) (o : Outcome),
      f.launched = some j ∧ v.flows[j]? = some g ∧
        g.routine = .action kind participant amount ∧ g.stage = .finished o ∧
          v.client.told f.routine o = .ok (.result (some r)) := by
  obtain ⟨n, t, rfl, turn, hmove⟩ := ans.turn h
  obtain ⟨here, screened, -, -⟩ := ans
  cases hstage : f.stage with
  | due =>
    left
    simp only [turn?, hstage] at turn
    cases n with
    | turn =>
      obtain rfl := Option.some.inj turn
      cases hinvoked : v.client.invoked? f.routine with
      | none =>
        rw [begin_of_closed screened hinvoked] at hmove
        cases hmove
      | some invoked =>
        obtain ⟨k, p, a⟩ := invoked
        obtain rfl : k = kind := Option.some.inj
          ((asked?_of_invoked hinvoked).symm.trans (asked?_of_screened screened))
        cases hpending : v.client.actions.isPending k with
        | false =>
          obtain ⟨note, hbegin⟩ := begin_of_idle hinvoked hpending
          rw [hbegin] at hmove
          cases hmove
        | true =>
          rw [begin_of_pending hinvoked hpending, told_of_screened _ screened] at hmove
          cases hmove
          exact ⟨h.due i f here hstage, rfl, result_typing v.client f.routine k⟩
    | cancel =>
      simp only [Option.ite_none_right_eq_some, Option.some.injEq] at turn
      obtain ⟨-, rfl⟩ := turn
      cases hmove
    | _ => cases turn
  | waiting need ps =>
    right
    obtain ⟨-, herrand, -⟩ := h.errand i f here (kind?_of_screened screened)
    have hasks := asked?_of_screened screened
    rw [hstage] at herrand
    simp only [turn?, hstage] at turn
    obtain ⟨o, ho, rfl⟩ := Option.map_eq_some_iff.1 turn
    cases herrand with
    | @acting k p a asks =>
      obtain rfl : k = kind := Option.some.inj (asks.symm.trans hasks)
      rw [(proceed_acting asks).2.2] at hmove
      replace hmove : v.client.told f.routine o = .ok (.result (some r)) := by
        injection hmove
      -- Whoever goes away gets no result.
      have hleft : v.client.told f.routine (.error .cancelled) ≠ .ok (.result (some r)) := by
        rw [told_of_screened _ screened]
        intro heq
        cases heq
      cases n with
      | ended =>
        obtain ⟨-, j, hj, hroutine⟩ := h.acting i f k p a _ here hstage
        obtain ⟨g, hg, hgr⟩ := Option.map_eq_some_iff.1 hroutine
        simp only [heard?, ending?, hj, Option.bind_some, hg, Option.map_some] at ho
        split at ho
        · next hover =>
          cases ho
          exact ⟨j, g, p, a, o, hj, hg, hgr, Option.some.inj hover, hmove⟩
        · cases ho
      | cancel =>
        simp only [heard?, Option.ite_none_right_eq_some, Option.some.injEq] at ho
        obtain ⟨-, rfl⟩ := ho
        exact (hleft hmove).elim
      | leave =>
        cases ho
        exact (hleft hmove).elim
      | _ => cases ho
    | reading reads => rw [reads] at hasks; cases hasks
    | telling reads => rw [reads] at hasks; cases hasks
    | drawing reads => rw [reads] at hasks; cases hasks
  | finished o => simp only [turn?, hstage, reduceCtorEq] at turn

/-! ## Whose success it is -/

/-- What the client keeps for a kind is a success if and only if the latest action of the kind was
confirmed. -/
theorem Sound.result_succeeded_iff (h : v.Sound) (kind : ActionKind) :
    (v.client.actions.result kind).succeeded = true ↔
      ∃ txHash, v.LatestConfirmed kind txHash := by
  rcases v.exists_latest kind with hnone | ⟨j, g, there, hkind, hl⟩
  · rw [(h.idle kind hnone).1]
    refine ⟨nofun, ?_⟩
    rintro ⟨txHash, j, g, there, hkind, -, -⟩
    obtain ⟨p, a, hroutine⟩ := routine_of_kind? hkind
    exact (hnone j p a (routineAt?_eq_some there hroutine)).elim
  · obtain ⟨p, a, hroutine⟩ := routine_of_kind? hkind
    obtain ⟨r, hcourse, hresult⟩ := (h.acts j g kind p a there hroutine).course
    rw [← hresult hl]
    rcases hcourse.result_cases hroutine with ⟨txHash, hconfirmed, rfl⟩ | ⟨hno, hr⟩
    · exact ⟨fun _ => ⟨txHash, j, g, there, hkind, hl, hconfirmed⟩, fun _ => rfl⟩
    · have hfailed : r.succeeded = false := by
        rcases hr with ⟨-, rfl⟩ | ⟨-, reason, -, rfl⟩ <;> rfl
      rw [hfailed]
      refine ⟨nofun, ?_⟩
      rintro ⟨txHash, j', g', there', hkind', hl', hconfirmed⟩
      -- There is only one latest action of a kind.
      obtain rfl : j' = j := Nat.le_antisymm (hl.le there' hkind') (hl'.le there hkind)
      obtain rfl : g' = g := Option.some.inj (there'.symm.trans there)
      exact (hno txHash hconfirmed).elim

/-- Whose own action was confirmed is answered with its success, and everybody else with what the
client keeps for the kind. -/
theorem Answers.result (h : v.Sound) (ans : v.Answers e i f kind r) :
    (∃ txHash, v.OwnConfirmed f txHash ∧ r = .success kind txHash) ∨
      ((∀ txHash, ¬ v.OwnConfirmed f txHash) ∧ r = v.client.actions.result kind) := by
  rcases ans.cases h with ⟨hnone, -, rfl⟩ | ⟨j, g, p, a, o, hj, there, hroutine, hstage, htold⟩
  · refine .inr ⟨?_, rfl⟩
    rintro txHash ⟨j, g, hj, -⟩
    rw [hnone] at hj
    cases hj
  · obtain ⟨r', hcourse, -⟩ := (h.acts j g kind p a there hroutine).course
    have hown := hcourse.result_cases hroutine
    rw [hstage] at hcourse
    rw [told_of_screened _ ans.screened] at htold
    -- An action that has ended was confirmed, or it has failed.
    generalize g.asked = asked at hcourse
    generalize g.answers = answers at hcourse
    cases hcourse with
    | done signed confirmed =>
      cases htold
      rcases hown with ⟨txHash, hconfirmed, heq⟩ | ⟨-, ⟨-, heq⟩ | ⟨-, reason, -, heq⟩⟩
      · exact .inl ⟨txHash, ⟨j, g, hj, there, hconfirmed⟩, heq⟩
      · cases heq
      · cases heq
    | @failed _ _ f' reason failing submission nonempty =>
      right
      constructor
      · rintro txHash ⟨j', g', hj', there', hconfirmed⟩
        rw [hj] at hj'
        cases hj'
        obtain rfl : g = g' := Option.some.inj (there.symm.trans there')
        rcases hown with ⟨_, -, heq⟩ | ⟨hno, -⟩
        · cases heq
        · exact hno txHash hconfirmed
      · replace htold : v.client.excuse kind f' = .ok (.result (some r)) := htold
        rw [excuse, if_pos submission] at htold
        cases htold
        rfl

/-- **What the screen answers**: whoever asked for an action is answered with a success if and only
if that action was confirmed, or else if the latest action of the kind was. -/
theorem answering_run (settings : Settings) (signer : Option Signer) (desk : Desk) (nonce : Nat)
    (now : Moment) (ledger : Ledger) (es : List Event) :
    ((start settings signer desk nonce now ledger).after es).Answering := by
  have h := (sound_start settings signer desk nonce now ledger).after es
  generalize (start settings signer desk nonce now ledger).after es = v at h
  have iff {e : Event} {i : Nat} {f : Flow} {kind : ActionKind} {r : TransactionResult}
      (ans : v.Answers e i f kind r) : r.succeeded = true ↔
        (∃ txHash, v.OwnConfirmed f txHash) ∨ ∃ txHash, v.LatestConfirmed kind txHash := by
    rcases ans.result h with ⟨txHash, hown, rfl⟩ | ⟨hno, rfl⟩
    · exact ⟨fun _ => .inl ⟨txHash, hown⟩, fun _ => rfl⟩
    · rw [h.result_succeeded_iff kind]
      refine ⟨.inr, ?_⟩
      rintro (⟨txHash, hown⟩ | hlatest)
      · exact (hno txHash hown).elim
      · exact hlatest
  constructor
  case own =>
    intro e i f kind r txHash ans hown
    rcases ans.result h with ⟨txHash', hown', rfl⟩ | ⟨hno, -⟩
    · obtain ⟨j, g, hj, there, hconfirmed⟩ := hown
      obtain ⟨j', g', hj', there', hconfirmed'⟩ := hown'
      rw [hj] at hj'
      cases hj'
      obtain rfl : g = g' := Option.some.inj (there.symm.trans there')
      rw [hconfirmed.unique hconfirmed']
    · exact (hno txHash hown).elim
  case other =>
    intro e i f kind r ans hno
    rcases ans.result h with ⟨txHash, hown, -⟩ | ⟨-, heq⟩
    · exact (hno txHash hown).elim
    · exact heq
  case succeeded_iff => exact fun e i f kind r ans => iff ans
  case undisturbed =>
    intro e i f kind r j ans hj hl
    rw [iff ans]
    refine ⟨?_, .inl⟩
    rintro (hown | ⟨txHash, j', g, there, hkind, hl', hconfirmed⟩)
    · exact hown
    · obtain ⟨k, p, a, hroutine, hnames⟩ := h.launched i f j ans.here hj
      obtain rfl : k = kind := kind_of_names ans.screened hnames
      obtain rfl : j = j' := Nat.le_antisymm (hl' j p a hroutine) (hl.le there hkind)
      exact ⟨txHash, j, g, hj, there, hconfirmed⟩
  case named => exact h.launched
  case distinct => exact h.distinct
  case refused =>
    intro i f kind p a here due screened invoked pending
    refine ⟨h.due i f here due, here, screened, by rw [due]; rfl, ?_⟩
    have hlen : i < v.flows.length := (List.getElem?_eq_some_iff.1 here).1
    rw [step_of_pending here due invoked pending]
    simp only [List.getElem?_set_self hlen, Option.map_some, told_of_screened _ screened, excuse,
      result_typing]
    rfl

/-! ## The success of another -/

/-- It is confirmed, and while the round is read again a haul is reported for Bart. -/
def overtaking : List Event :=
  [.news 2 .turn, .news 2 (.reply (.ok (.answer (.handle ⟨"0x1", "recordHaul"⟩)))),
    .news 2 (.reply (.ok (.answer (.receipt ⟨"0x1", .confirmed, some 1, ""⟩)))),
    .setOut (.report (some (.text "2")) (some "B"))]

/-- **The success of another**: a haul that is reported for Bart is refused, since the one for Anne
is still in flight, and is answered with the success of that one. -/
theorem succeeded_refused :
    ∃ f, ((moored.after reporting).after overtaking).Answers (.news 3 .turn) 3 f .haul
        (.success .haul "0x1") ∧
      f.routine = .report (some (.text "2")) (some "B") ∧
        ∀ txHash, ¬ ((moored.after reporting).after overtaking).OwnConfirmed f txHash := by
  obtain ⟨call, hcall⟩ := exists_signed_reporting
  have hstep : (moored.after reporting).step (.news 2 .turn) =
      (moored.after reporting).carry 2 (.ofRoutine (.action .haul "A" (.text "1")))
        ((moored.after reporting).client.action .haul "A" (.text "1")) := rfl
  rw [action, hcall] at hstep
  have hafter : (moored.after reporting).after overtaking =
      ((moored.after reporting).step (.news 2 .turn)).after overtaking.tail := rfl
  rw [hstep] at hafter
  rw [hafter]
  refine ⟨.ofRoutine (.report (some (.text "2")) (some "B")), ⟨rfl, rfl, rfl, rfl⟩, rfl, ?_⟩
  rintro txHash ⟨j, g, ⟨⟩, -⟩

end Voyage
end Plunder
