import Plunder.Proofs.Client.Soundness

/-!
# The messages of the screen

An error and a success are shown in two places, and five things write there: an action that is
launched, fails or is confirmed, the refresh that follows it, and the loading of the screen. The
confirmation of an action and a load that fails set the one message and leave the other, so that
both may stand.

Main statements:
- `Speaks.messages_step`, `messages_step_of_silent`: what an event leaves of the two messages
- `messages_run`: when both messages stand
- `messages_reloading`: a load that cannot read the round
- `both_after_reload`, `both_after_race`: two runs at whose ends both stand
-/

namespace Plunder

/-! ## Definitions -/

/-- The two messages that the user may be shown. -/
structure Messages where
  error : Option String
  success : Option String
  deriving DecidableEq

/-- Whether both messages stand. -/
structure Messages.Both (m : Messages) : Prop where
  error : m.error.isSome = true
  success : m.success.isSome = true

def Actions.messages (a : Actions) : Messages := ⟨a.feedback.error, a.feedback.success⟩

namespace Voyage

/-- The two messages of a voyage. -/
def messages (v : Voyage) : Messages := v.client.actions.messages

/-- What an event writes into the messages, if it writes anything. -/
inductive Speaks (v : Voyage) : Event → Messages → Prop where
  /-- An action is launched, and both messages go. -/
  | launch {i : Nat} {f : Flow} {kind : ActionKind} {participant : String} {amount : Value}
      (here : v.flows[i]? = some f) (due : f.stage = .due)
      (invoked : v.client.invoked? f.routine = some (kind, participant, amount))
      (idle : v.client.actions.isPending kind = false) :
      Speaks v (.news i .turn) ⟨none, none⟩
  /-- An action fails, and its reason takes the place of both. -/
  | failure {i : Nat} {n : News} {f : Flow} {kind : ActionKind} {participant : String}
      {amount : Value} {g : Fault} (here : v.flows[i]? = some f)
      (routine : f.routine = .action kind participant amount) (under : f.stage.isOver = false)
      (ends : (v.step (.news i n)).flows[i]?.map Flow.stage = some (.finished (.error g))) :
      Speaks v (.news i n) ⟨some (Actions.reasonOf kind g), none⟩
  /-- An action is confirmed. An error that stands is left. -/
  | success {i : Nat} {f : Flow} {kind : ActionKind} {h : TransactionHandle}
      {r : TransactionReceipt} (here : v.flows[i]? = some f)
      (waits : f.stage = .waiting (.answer (.finality h)) [.finality kind])
      (confirmed : r.confirmed = true) :
      Speaks v (.news i (.reply (.ok (.answer (.receipt r)))))
        ⟨v.messages.error, some (Actions.successText kind)⟩
  /-- The refresh that follows an action fails, which takes the place of both. -/
  | unrefreshed {i : Nat} {f : Flow} {kind : ActionKind} {ticket : Nat} {o : Outcome} {g : Fault}
      (here : v.flows[i]? = some f)
      (waits : f.stage = .waiting .readings [.readings ticket, .followUp kind])
      (uncancelled : o.isCancelled = false)
      (fails : Synchronizer.snapshotOf (Client.readingsOf o) = .error g) :
      Speaks v (.news i (.reply o)) ⟨some Fault.syncText, none⟩
  /-- The screen begins to load, and the error goes. -/
  | loading {i : Nat} {f : Flow} (here : v.flows[i]? = some f) (due : f.stage = .due)
      (routine : f.routine = .load) (shown : v.client.screen.closed = false) :
      Speaks v (.news i .turn) ⟨none, v.messages.success⟩
  /-- The round cannot be read for the screen. A success that stands is left. -/
  | unloaded {i : Nat} {f : Flow} {ticket : Nat} {o : Outcome} {g : Fault}
      (here : v.flows[i]? = some f)
      (waits : f.stage = .waiting .readings [.readings ticket, .loading])
      (uncancelled : o.isCancelled = false)
      (fails : Synchronizer.snapshotOf (Client.readingsOf o) = .error g) :
      Speaks v (.news i (.reply o)) ⟨some Fault.syncText, v.messages.success⟩

/-- Whether an event sets one message while the other stands, and leaves that one. -/
inductive Overlays (v : Voyage) : Event → Prop where
  /-- An action is confirmed while an error stands. -/
  | success {i : Nat} {f : Flow} {kind : ActionKind} {h : TransactionHandle}
      {r : TransactionReceipt} (here : v.flows[i]? = some f)
      (waits : f.stage = .waiting (.answer (.finality h)) [.finality kind])
      (confirmed : r.confirmed = true) (standing : v.messages.error.isSome = true) :
      Overlays v (.news i (.reply (.ok (.answer (.receipt r)))))
  /-- The round cannot be read for the screen while a success stands. -/
  | unloaded {i : Nat} {f : Flow} {ticket : Nat} {o : Outcome} {g : Fault}
      (here : v.flows[i]? = some f)
      (waits : f.stage = .waiting .readings [.readings ticket, .loading])
      (uncancelled : o.isCancelled = false)
      (fails : Synchronizer.snapshotOf (Client.readingsOf o) = .error g)
      (standing : v.messages.success.isSome = true) :
      Overlays v (.news i (.reply o))

/-- Whether an event writes nothing into the messages. -/
def Silent (v : Voyage) (e : Event) : Prop := ∀ m, ¬v.Speaks e m

/-- What events leave of the messages. -/
structure Speaking (v : Voyage) : Prop where
  spoken : ∀ e m, v.Speaks e m → (v.step e).messages = m
  silent : ∀ e, v.Silent e → (v.step e).messages = v.messages

/-- Whether some event of a run lays one message over the other, and nothing is written since. -/
def Overlaid (v : Voyage) (es : List Event) : Prop :=
  ∃ before e later, es = before ++ e :: later ∧ (v.after before).Overlays e ∧
    ∀ mid e', mid ++ [e'] <+: later → (v.after (before ++ e :: mid)).Silent e'

end Voyage

/-- A step in which an action fails, and says why. -/
def Turn.Fails (kind : ActionKind) (t : Turn) : Prop :=
  ∃ g, t.move = .done (.error g) ∧
    t.client.actions.messages = ⟨some (Actions.reasonOf kind g), none⟩

/-- A step that does not end with a fault, and leaves the messages as given. -/
structure Turn.Endures (m : Messages) (t : Turn) : Prop where
  unfailed : ∀ g, t.move ≠ .done (.error g)
  messages_eq : t.client.actions.messages = m

/-- What an action writes in a step that it takes with some news. -/
inductive Voyage.Utters (v : Voyage) (f : Flow) (kind : ActionKind) (n : News) (t : Turn) :
    Prop where
  | failure (fails : t.Fails kind)
  | success {h : TransactionHandle} {r : TransactionReceipt}
      (waits : f.stage = .waiting (.answer (.finality h)) [.finality kind])
      (news : n = .reply (.ok (.answer (.receipt r)))) (confirmed : r.confirmed = true)
      (endures : t.Endures ⟨v.messages.error, some (Actions.successText kind)⟩)
  | unrefreshed {ticket : Nat} {o : Outcome} {g : Fault}
      (waits : f.stage = .waiting .readings [.readings ticket, .followUp kind])
      (news : n = .reply o) (uncancelled : o.isCancelled = false)
      (fails : Synchronizer.snapshotOf (Client.readingsOf o) = .error g)
      (endures : t.Endures ⟨some Fault.syncText, none⟩)
  | silent (endures : t.Endures v.messages)

/-! ## What is written into the messages -/

namespace Actions

variable (a : Actions) (kind : ActionKind)

theorem messages_setResult (r : TransactionResult) : (a.setResult r).messages = a.messages := by
  rw [messages, feedback_setResult, messages]

theorem messages_start : (a.start kind).messages = ⟨none, none⟩ := messages_setResult _ _

theorem messages_fail (f : Fault) : (a.fail kind f).1.messages = ⟨some (reasonOf kind f), none⟩ :=
  rfl

theorem messages_succeed (txHash : String) :
    (a.succeed kind txHash).1.messages = ⟨a.messages.error, some (successText kind)⟩ := by
  have hsame := messages_setResult a (.success kind txHash)
  simp only [messages, Messages.mk.injEq] at hsame
  simp only [succeed, messages, hsame.1]

/-- What a failed action says is what its fault says to whoever waits for it. -/
theorem reasonOf_failureOf (f : Fault) : reasonOf kind (failureOf kind f) = reasonOf kind f := by
  unfold failureOf
  split
  · rfl
  · have hne := reasonOf_ne kind f
    generalize reasonOf kind f = reason at hne
    have hempty : reason.isEmpty = false := by simpa using hne
    show (if reason.isEmpty then fallback kind else reason) = reason
    rw [hempty]
    rfl

end Actions

/-! ## Steps of an action -/

theorem Turn.Fails.congr {kind : ActionKind} {t t' : Turn} (h : t.Fails kind)
    (client : t'.client = t.client) (move : t'.move = t.move) : t'.Fails kind := by
  obtain ⟨g, hmove, hmessages⟩ := h
  exact ⟨g, move.trans hmove, by rw [client, hmessages]⟩

theorem Turn.Endures.congr {m : Messages} {t t' : Turn} (h : t.Endures m)
    (client : t'.client = t.client) (move : t'.move = t.move) : t'.Endures m :=
  ⟨fun g => move ▸ h.unfailed g, by rw [client, h.messages_eq]⟩

namespace Client

open Turn Actions

variable {c : Client} {kind : ActionKind} {participant : String} {amount : Value} {o : Outcome}
  {f g : Fault} {ticket : Nat}

theorem fails_failAction (hf : f.kind ≠ .cancelled) (notes : List Note) :
    (c.failAction kind notes f).Fails kind := by
  have hcancelled : (f.kind == .cancelled) = false := by simpa using hf
  simp only [failAction, hcancelled, Bool.false_eq_true, if_false]
  refine ⟨failureOf kind f, rfl, ?_⟩
  rw [reasonOf_failureOf]
  exact messages_fail c.actions kind f

/-- An action begins. -/
theorem action_cases (c : Client) (kind : ActionKind) (participant : String) (amount : Value) :
    (c.action kind participant amount).Fails kind ∨
      (c.action kind participant amount).Endures c.actions.messages := by
  unfold action
  simp only
  rcases signed_cases c kind participant amount with ⟨call, hcall, -⟩ | ⟨f, hcall, hf⟩
  · rw [hcall]
    exact .inr ⟨by nofun, rfl⟩
  · rw [hcall]
    exact .inl (fails_failAction hf _)

/-- An action goes on with what came for its call. -/
theorem afterSubmission_cases (ho : o.isCancelled = false) :
    (c.afterSubmission kind o).Fails kind ∨
      (c.afterSubmission kind o).Endures c.actions.messages := by
  unfold afterSubmission
  split
  · exact .inr ⟨by nofun, rfl⟩
  · exact .inl (fails_failAction (by nofun) [])
  · exact .inl (fails_failAction (kind_ne_of_uncancelled ho) [])

/-- **A confirmed action sets the success**, and leaves the error. -/
theorem afterFinality_of_confirmed {r : TransactionReceipt} (confirmed : r.confirmed = true) :
    (c.afterFinality kind (.ok (.answer (.receipt r)))).Endures
      ⟨c.actions.messages.error, some (successText kind)⟩ := by
  simp only [afterFinality, Actions.confirm, confirmed, if_true]
  refine ⟨?_, messages_succeed c.actions kind r.txHash⟩
  intro g hg
  cases hg

/-- Any other answer makes the action fail. -/
theorem afterFinality_of_unconfirmed (ho : o.isCancelled = false)
    (unconfirmed : ∀ r : TransactionReceipt, r.confirmed = true → o ≠ .ok (.answer (.receipt r))) :
    (c.afterFinality kind o).Fails kind := by
  unfold afterFinality
  split
  · rename_i r
    cases hr : r.confirmed with
    | true => exact (unconfirmed r hr rfl).elim
    | false =>
      simp only [Actions.confirm, hr, Bool.false_eq_true, if_false]
      apply fails_failAction _ []
      intro hcancelled
      cases hcancelled
  · apply fails_failAction _ []
    intro hcancelled
    cases hcancelled
  · exact fails_failAction (kind_ne_of_uncancelled ho) []

/-- A refresh that cannot read the round fails, and says so. -/
theorem move_readings_of_failed (ho : o.isCancelled = false)
    (fails : Synchronizer.snapshotOf (readingsOf o) = .error g) :
    (c.resume o (.readings ticket)).move = .done (.error (.sync g)) := by
  rw [resume, afterReadings_of_failed ho fails]
  rfl

/-- One that can read it does not fail. -/
theorem move_readings_of_read {new : RoundSnapshot} (ho : o.isCancelled = false)
    (read : Synchronizer.snapshotOf (readingsOf o) = .ok new) (f : Fault) :
    (c.resume o (.readings ticket)).move ≠ .done (.error f) := by
  intro hf
  obtain ⟨g, -, hg⟩ := failed_of_afterReadings ho hf
  rw [read] at hg
  cases hg

/-- **The refresh that follows an action fails**: that takes the place of both messages. -/
theorem proceed_followUp_of_failed (ho : o.isCancelled = false)
    (fails : Synchronizer.snapshotOf (readingsOf o) = .error g) :
    (c.proceed o [.readings ticket, .followUp kind]).Endures ⟨some Fault.syncText, none⟩ := by
  obtain ⟨hclient, hmove'⟩ :=
    proceed_of_done (move_readings_of_failed (c := c) ho fails) [.followUp kind]
  obtain ⟨hclient', hmove''⟩ := proceed_singleton (c.resume o (.readings ticket)).client
    (.error (.sync g)) (.followUp kind)
  have hends : ((c.resume o (.readings ticket)).client.afterRefresh kind (.error (.sync g))).Endures
      ⟨some Fault.syncText, none⟩ := ⟨by nofun, rfl⟩
  exact hends.congr (hclient.trans hclient') (hmove'.trans hmove'')

/-- The refresh that follows an action goes on, and does not fail. -/
theorem proceed_followUp_of_unfailed {p : Point} (refreshes : Refreshes c.actions (c.resume o p))
    (unfailed : ∀ f, (c.resume o p).move ≠ .done (.error f)) :
    (c.proceed o [p, .followUp kind]).Endures c.actions.messages := by
  have hactions := refreshes.actions_eq
  rcases refreshes.move_eq with ⟨o₁, hmove⟩ | ⟨ticket, new, l, others, hmove⟩
  · obtain ⟨hclient, hmove'⟩ := proceed_of_done hmove [.followUp kind]
    obtain ⟨hclient', hmove''⟩ := proceed_singleton (c.resume o p).client o₁ (.followUp kind)
    cases o₁ with
    | error f => exact (unfailed f hmove).elim
    | ok reply =>
      have hends : ((c.resume o p).client.afterRefresh kind (.ok reply)).Endures
          (c.resume o p).client.actions.messages := ⟨by nofun, rfl⟩
      rw [← hactions]
      exact hends.congr (hclient.trans hclient') (hmove'.trans hmove'')
  · obtain ⟨hclient, hmove'⟩ := proceed_of_wait hmove [.followUp kind]
    refine ⟨?_, by rw [hclient, hactions]⟩
    rw [hmove']
    nofun

/-! ## Steps of an errand -/

theorem messages_typing (c : Client) (r : Routine) :
    (c.typing r).actions.messages = c.actions.messages := by
  unfold typing
  split <;> rfl

/-- **The screen cannot read the round**: it sets the error, and leaves the success. -/
theorem proceed_loading_of_failed (ho : o.isCancelled = false)
    (fails : Synchronizer.snapshotOf (readingsOf o) = .error g) :
    (c.proceed o [.readings ticket, .loading]).client.actions.messages =
      ⟨some Fault.syncText, c.actions.messages.success⟩ := by
  have hactions := (afterReadings_refreshes c ticket o).actions_eq
  obtain ⟨hclient, -⟩ := proceed_of_done (move_readings_of_failed (c := c) ho fails) [.loading]
  obtain ⟨hclient', -⟩ := proceed_singleton (c.resume o (.readings ticket)).client
    (.error (.sync g)) .loading
  rw [hclient, hclient', ← hactions]
  rfl

/-- A refresh goes on for what was asked for, and does not fail where that is the screen. -/
theorem actions_proceed_refresh {r : Routine} {p : Point}
    (refreshes : Refreshes c.actions (c.resume o p)) (reads : r.asked? = none)
    (unfailed : r = .load → ∀ f, (c.resume o p).move = .done (.error f) → f.kind ≠ .sync) :
    (c.proceed o (p :: r.outer)).client.actions = c.actions := by
  have hactions := refreshes.actions_eq
  rcases refreshes.move_eq with ⟨o₁, hmove⟩ | ⟨ticket, new, l, others, hmove⟩
  · obtain ⟨hclient, -⟩ := proceed_of_done hmove r.outer
    rw [hclient, ← hactions]
    cases r with
    | load =>
      rw [Routine.outer, (proceed_singleton (c.resume o p).client o₁ .loading).1]
      cases o₁ with
      | ok reply => rfl
      | error f =>
        have hf : (f.kind == .sync) = false := by simpa using unfailed rfl f hmove
        simp only [resume, afterLoading, hf, Bool.false_eq_true, if_false]
        rfl
    | report a q => cases reads
    | setSail => cases reads
    | _ => rfl
  · rw [(proceed_of_wait hmove r.outer).1, hactions]

/-- What was asked for begins, and launches nothing. -/
theorem messages_begin {r : Routine} (isOpen : r.isOpen = true) (uninvoked : c.invoked? r = none) :
    (r = .load ∧ c.screen.closed = false ∧
        (c.begin r).client.actions.messages = ⟨none, c.actions.messages.success⟩) ∨
      (c.begin r).client.actions.messages = c.actions.messages := by
  cases r with
  | refresh => exact .inr rfl
  | load =>
    cases hclosed : c.screen.closed with
    | true =>
      right
      simp only [begin, load, hclosed, if_true]
      rfl
    | false =>
      refine .inl ⟨rfl, rfl, ?_⟩
      simp only [begin, load, hclosed, Bool.false_eq_true, if_false]
      rfl
  | report a p =>
    right
    simp only [invoked?] at uninvoked
    split at uninvoked
    · next hclosed =>
      simp only [begin, report, hclosed, if_true]
      rfl
    · cases uninvoked
  | setSail =>
    right
    simp only [invoked?] at uninvoked
    split at uninvoked
    · next hclosed =>
      simp only [begin, setSail, hclosed, if_true]
      rfl
    · cases uninvoked
  | submitHaul p a => cases uninvoked
  | advanceRound => cases uninvoked
  | action k p a => cases isOpen
  | chart => cases isOpen

end Client

namespace Voyage

open Client

variable {v : Voyage} {e : Event} {i : Nat} {f : Flow} {n : News} {t : Turn} {m : Messages}
  {kind : ActionKind} {participant : String} {amount : Value} {need : Need} {ps : List Point}
  {o : Outcome}

/-! ## The step of a flow -/

theorem step_of_turn (here : v.flows[i]? = some f) (turn : v.turn? f n = some t) :
    v.step (.news i n) = v.carry i (f.hears n) t := by
  simp only [step, afterNews, here, turn]

theorem messages_of_turn (here : v.flows[i]? = some f) (turn : v.turn? f n = some t) :
    (v.step (.news i n)).messages = t.client.actions.messages := by
  rw [step_of_turn here turn]
  rfl

theorem stage_of_turn (here : v.flows[i]? = some f) (turn : v.turn? f n = some t) :
    (v.step (.news i n)).flows[i]?.map Flow.stage = some t.move.stage := by
  have hlen : i < v.flows.length := (List.getElem?_eq_some_iff.1 here).1
  rw [step_of_turn here turn, carry, List.getElem?_append_left (by simpa using hlen),
    List.getElem?_set_self hlen]
  rfl

theorem turn?_of_due (due : f.stage = .due) :
    v.turn? f .turn = some (v.client.begin f.routine) := by
  simp only [turn?, due]

theorem turn?_of_reply (waits : f.stage = .waiting need ps) (outward : need.isOutward = true)
    (uncancelled : o.isCancelled = false) :
    v.turn? f (.reply o) = some (v.client.proceed o ps) := by
  simp only [turn?, waits, heard?, outward, uncancelled, Bool.not_false, Bool.and_self, if_true,
    Option.map_some]

/-- To an action the gateway answers, and it is never cancelled. -/
theorem reply_of_heard (closed : f.routine.isOpen = false) (outward : need.isOutward = true)
    (heard : v.heard? f need n = some o) : n = .reply o ∧ o.isCancelled = false := by
  cases n with
  | reply o' =>
    simp only [heard?, Bool.and_eq_true, Bool.not_eq_true', Option.ite_none_right_eq_some,
      Option.some.injEq] at heard
    obtain ⟨⟨-, ho⟩, rfl⟩ := heard
    exact ⟨rfl, ho⟩
  | cancel => simp [heard?, closed] at heard
  | _ => cases need <;> simp [heard?, ending?, Need.isOutward] at heard outward

/-- Whoever reads the round hears of the gateway, or is cancelled. -/
theorem reading_of_heard (heard : v.heard? f .readings n = some o) :
    (n = .reply o ∧ o.isCancelled = false) ∨ o = .error .cancelled := by
  cases n with
  | reply o' =>
    simp only [heard?, Bool.and_eq_true, Bool.not_eq_true', Option.ite_none_right_eq_some,
      Option.some.injEq] at heard
    obtain ⟨⟨-, ho⟩, rfl⟩ := heard
    exact .inl ⟨rfl, ho⟩
  | cancel =>
    simp only [heard?, Option.ite_none_right_eq_some, Option.some.injEq] at heard
    exact .inr heard.2.symm
  | _ => cases heard

/-- Whoever waits for its turn has it, or is cancelled. -/
theorem turning_of_heard (heard : v.heard? f .turn n = some o) :
    o = .ok .nothing ∨ f.routine.isOpen = true ∧ o = .error .cancelled := by
  cases n with
  | turn => exact .inl (Option.some.inj heard).symm
  | cancel =>
    simp only [heard?, Option.ite_none_right_eq_some, Option.some.injEq] at heard
    exact .inr ⟨heard.1, heard.2.symm⟩
  | _ => cases heard

theorem under_of_turn (turn : v.turn? f n = some t) : f.stage.isOver = false := by
  cases hstage : f.stage with
  | finished o => simp only [turn?, hstage, reduceCtorEq] at turn
  | _ => rfl

/-! ## What flows write -/

/-- **What an action writes in a step.** -/
theorem Sound.utters (h : v.Sound) (here : v.flows[i]? = some f)
    (routine : f.routine = .action kind participant amount) (turn : v.turn? f n = some t) :
    v.Utters f kind n t := by
  obtain ⟨⟨r, hcourse, -⟩, -, -⟩ := h.acts i f kind participant amount here routine
  have hclosed : f.routine.isOpen = false := by rw [routine]; rfl
  have of_cases {t : Turn} (h : t.Fails kind ∨ t.Endures v.messages) : v.Utters f kind n t :=
    h.elim .failure .silent
  cases hstage : f.stage with
  | due =>
    simp only [turn?, hstage] at turn
    cases n with
    | turn =>
      obtain rfl := Option.some.inj turn
      rw [routine]
      exact of_cases (action_cases v.client kind participant amount)
    | cancel => simp [hclosed] at turn
    | _ => cases turn
  | waiting need ps =>
    rw [hstage] at hcourse
    simp only [turn?, hstage] at turn
    obtain ⟨o, ho, rfl⟩ := Option.map_eq_some_iff.1 turn
    generalize f.asked = asked at hcourse
    generalize f.answers = answers at hcourse
    cases hcourse with
    | submitting signed =>
      obtain ⟨rfl, huncancelled⟩ := reply_of_heard hclosed rfl ho
      obtain ⟨hclient, hmove⟩ := proceed_singleton v.client o (.submission kind)
      have hcases : (v.client.afterSubmission kind o).Fails kind ∨
          (v.client.afterSubmission kind o).Endures v.messages := afterSubmission_cases huncancelled
      exact of_cases (hcases.imp (·.congr hclient hmove) (·.congr hclient hmove))
    | awaiting signed =>
      obtain ⟨rfl, huncancelled⟩ := reply_of_heard hclosed rfl ho
      obtain ⟨hclient, hmove⟩ := proceed_singleton v.client o (.finality kind)
      by_cases hconfirmed : ∃ r : TransactionReceipt, r.confirmed = true ∧
          o = .ok (.answer (.receipt r))
      · obtain ⟨r, hr, rfl⟩ := hconfirmed
        exact .success hstage rfl hr ((afterFinality_of_confirmed hr).congr hclient hmove)
      · have hfails : (v.client.afterFinality kind o).Fails kind :=
          afterFinality_of_unconfirmed huncancelled fun r hr heq => hconfirmed ⟨r, hr, heq⟩
        exact .failure (hfails.congr hclient hmove)
    | @reading call h r ticket signed confirmed =>
      obtain ⟨rfl, huncancelled⟩ := reply_of_heard hclosed rfl ho
      cases hs : Synchronizer.snapshotOf (readingsOf o) with
      | error g =>
        exact .unrefreshed hstage rfl huncancelled hs (proceed_followUp_of_failed huncancelled hs)
      | ok new =>
        exact .silent (proceed_followUp_of_unfailed (afterReadings_refreshes v.client ticket o)
          (move_readings_of_read huncancelled hs))
    | @telling call h r o' ticket new l others signed confirmed =>
      rcases turning_of_heard ho with rfl | ⟨hopen, -⟩
      · have hrefreshes : Turn.Refreshes v.client.actions
            (v.client.resume (.ok .nothing) (.listening ticket new l others)) :=
          afterTurn_refreshes v.client ticket new l others (.ok .nothing)
        exact .silent (proceed_followUp_of_unfailed hrefreshes fun f hf => notify_move _ _ _ _ hf)
      · rw [hclosed] at hopen
        cases hopen
  | finished o => simp only [turn?, hstage, reduceCtorEq] at turn

/-- **What anything else writes in a step.** -/
theorem Sound.errand_speaks (h : v.Sound) (here : v.flows[i]? = some f) (hkind : f.kind? = none)
    (turn : v.turn? f n = some t) :
    (∃ m, v.Speaks (.news i n) m ∧ t.client.actions.messages = m) ∨
      t.client.actions.messages = v.messages := by
  obtain ⟨hopen, herrand, -⟩ := h.errand i f here hkind
  cases hstage : f.stage with
  | due =>
    simp only [turn?, hstage] at turn
    cases n with
    | turn =>
      obtain rfl := Option.some.inj turn
      cases hinvoked : v.client.invoked? f.routine with
      | none =>
        refine (messages_begin hopen hinvoked).imp ?_ id
        rintro ⟨hload, hshown, hmessages⟩
        exact ⟨_, .loading here hstage hload hshown, hmessages⟩
      | some invoked =>
        obtain ⟨kind, participant, amount⟩ := invoked
        cases hpending : v.client.actions.isPending kind with
        | true =>
          rw [begin_of_pending hinvoked hpending]
          exact .inr (messages_typing v.client f.routine)
        | false =>
          obtain ⟨note, hbegin⟩ := begin_of_idle hinvoked hpending
          rw [hbegin]
          exact .inl ⟨_, .launch here hstage hinvoked hpending, Actions.messages_start _ kind⟩
    | cancel =>
      simp only [hopen, if_true, Option.some.injEq] at turn
      subst turn
      exact .inr rfl
    | _ => cases turn
  | waiting need ps =>
    rw [hstage] at herrand
    simp only [turn?, hstage] at turn
    obtain ⟨o, ho, rfl⟩ := Option.map_eq_some_iff.1 turn
    cases herrand with
    | @reading ticket reads =>
      have hrefreshes : Turn.Refreshes v.client.actions
          (v.client.resume o (.readings ticket)) := afterReadings_refreshes v.client ticket o
      have quiet (unfailed : f.routine = .load → ∀ g,
          (v.client.afterReadings ticket o).move = .done (.error g) → g.kind ≠ .sync) :
          (v.client.proceed o (.readings ticket :: f.routine.outer)).client.actions.messages =
            v.messages :=
        congrArg Actions.messages (actions_proceed_refresh hrefreshes reads unfailed)
      rcases reading_of_heard ho with ⟨rfl, huncancelled⟩ | rfl
      · by_cases hload : f.routine = .load
        · cases hs : Synchronizer.snapshotOf (readingsOf o) with
          | error g =>
            rw [hload] at hstage ⊢
            exact .inl ⟨_, .unloaded here hstage huncancelled hs,
              proceed_loading_of_failed huncancelled hs⟩
          | ok new =>
            exact .inr (quiet fun _ g hg => (move_readings_of_read huncancelled hs g hg).elim)
        · exact .inr (quiet fun heq => (hload heq).elim)
      · -- A cancelled refresh ends with the cancellation.
        refine .inr (quiet fun _ g hg => ?_)
        rw [afterReadings_of_cancelled rfl] at hg
        cases hg
        decide
    | @telling ticket new l others reads =>
      have hrefreshes : Turn.Refreshes v.client.actions
          (v.client.resume o (.listening ticket new l others)) :=
        afterTurn_refreshes v.client ticket new l others o
      refine .inr (congrArg Actions.messages (actions_proceed_refresh hrefreshes reads ?_))
      intro _ g hg
      rcases turning_of_heard ho with rfl | ⟨-, rfl⟩
      · exact (notify_move _ _ _ _ hg).elim
      · cases hg
        decide
    | drawing =>
      right
      rw [(proceed_singleton v.client o .drawing).1]
      cases o <;> rfl
    | acting asks =>
      right
      rw [(proceed_acting asks).1]
      rfl
  | finished o => simp only [turn?, hstage, reduceCtorEq] at turn

/-! ## What events write -/

theorem messages_touch (c : Client) (t : Touch) :
    (c.touch t).actions.messages = c.actions.messages := by
  cases t with
  | select address =>
    simp only [touch]
    split <;> rfl
  | _ => rfl

/-- **Every event writes what it speaks**, or leaves the messages alone. -/
theorem Sound.speaks_or_keeps (h : v.Sound) (e : Event) :
    (∃ m, v.Speaks e m ∧ (v.step e).messages = m) ∨ (v.step e).messages = v.messages := by
  cases e with
  | news i n =>
    cases here : v.flows[i]? with
    | none =>
      right
      simp only [Voyage.step, afterNews, here]
    | some f =>
      cases turn : v.turn? f n with
      | none =>
        right
        simp only [Voyage.step, afterNews, here, turn]
      | some t =>
        rw [messages_of_turn here turn]
        cases hkind : f.kind? with
        | none => exact h.errand_speaks here hkind turn
        | some kind =>
          obtain ⟨participant, amount, routine⟩ := routine_of_kind? hkind
          cases h.utters here routine turn with
          | failure fails =>
            obtain ⟨g, hmove, hmessages⟩ := fails
            have hends := stage_of_turn here turn
            rw [hmove] at hends
            exact .inl ⟨_, .failure here routine (under_of_turn turn) hends, hmessages⟩
          | success waits news confirmed endures =>
            subst news
            exact .inl ⟨_, .success here waits confirmed, endures.messages_eq⟩
          | unrefreshed waits news uncancelled fails endures =>
            subst news
            exact .inl ⟨_, .unrefreshed here waits uncancelled fails, endures.messages_eq⟩
          | silent endures => exact .inr endures.messages_eq
  | setOut r =>
    right
    simp only [Voyage.step]
    split <;> rfl
  | load number o => exact .inr (congrArg Actions.messages (h.afterLoad number o).2.2)
  | touch t => exact .inr (messages_touch v.client t)
  | dismiss => exact .inr rfl
  | reach flow =>
    right
    simp only [Voyage.step]
    split <;> rfl
  | ledger e => exact .inr rfl

/-- **What an event speaks stands afterwards.** -/
theorem Speaks.messages_step (h : v.Sound) (speaks : v.Speaks e m) : (v.step e).messages = m := by
  cases speaks with
  | launch here due invoked idle =>
    obtain ⟨note, hbegin⟩ := begin_of_idle invoked idle
    rw [messages_of_turn here (turn?_of_due due), hbegin]
    exact Actions.messages_start _ _
  | @failure i n f kind participant amount g here routine under ends =>
    cases turn : v.turn? f n with
    | none =>
      -- Without a step the action would not have ended.
      simp only [step, afterNews, here, turn, Option.map_some, Option.some.injEq] at ends
      rw [ends] at under
      cases under
    | some t =>
      rw [stage_of_turn here turn, Option.some.injEq] at ends
      have hmove : t.move = .done (.error g) := by
        cases hmove : t.move with
        | done o =>
          rw [hmove] at ends
          exact congrArg _ (Stage.finished.inj ends)
        | wait need ps =>
          rw [hmove] at ends
          cases ends
      rw [messages_of_turn here turn]
      cases h.utters here routine turn with
      | failure fails =>
        obtain ⟨g', hmove', hmessages⟩ := fails
        rw [hmove] at hmove'
        cases hmove'
        exact hmessages
      | success _ _ _ endures => exact (endures.unfailed g hmove).elim
      | unrefreshed _ _ _ _ endures => exact (endures.unfailed g hmove).elim
      | silent endures => exact (endures.unfailed g hmove).elim
  | @success i f kind h r here waits confirmed =>
    rw [messages_of_turn here (turn?_of_reply waits rfl rfl), (proceed_singleton _ _ _).1]
    exact (afterFinality_of_confirmed confirmed).messages_eq
  | unrefreshed here waits uncancelled fails =>
    rw [messages_of_turn here (turn?_of_reply waits rfl uncancelled)]
    exact (proceed_followUp_of_failed uncancelled fails).messages_eq
  | loading here due routine shown =>
    rw [messages_of_turn here (turn?_of_due due), routine, begin, load, shown]
    rfl
  | unloaded here waits uncancelled fails =>
    rw [messages_of_turn here (turn?_of_reply waits rfl uncancelled)]
    exact proceed_loading_of_failed uncancelled fails

theorem messages_step_of_silent (h : v.Sound) (silent : v.Silent e) :
    (v.step e).messages = v.messages :=
  (h.speaks_or_keeps e).resolve_left fun ⟨m, speaks, _⟩ => silent m speaks

/-! ## Both messages -/

theorem Overlays.speaks (h : v.Overlays e) : ∃ m, v.Speaks e m ∧ m.Both := by
  cases h with
  | success here waits confirmed standing => exact ⟨_, .success here waits confirmed, standing, rfl⟩
  | unloaded here waits uncancelled fails standing =>
    exact ⟨_, .unloaded here waits uncancelled fails, rfl, standing⟩

/-- What an event speaks is both messages only where it leaves one. -/
theorem Speaks.overlays (speaks : v.Speaks e m) (both : m.Both) : v.Overlays e := by
  obtain ⟨herror, hsuccess⟩ := both
  cases speaks with
  | success here waits confirmed => exact .success here waits confirmed herror
  | unloaded here waits uncancelled fails => exact .unloaded here waits uncancelled fails hsuccess
  | loading _ _ _ _ => cases herror
  | launch _ _ _ _ => cases herror
  | failure _ _ _ _ => cases hsuccess
  | unrefreshed _ _ _ _ => cases hsuccess

/-- **Both messages stand after an event** exactly if it lays one over the other, or they stood and
it writes nothing. -/
theorem both_step_iff (h : v.Sound) :
    (v.step e).messages.Both ↔ v.Overlays e ∨ v.messages.Both ∧ v.Silent e := by
  constructor
  · intro both
    by_cases hsilent : v.Silent e
    · rw [messages_step_of_silent h hsilent] at both
      exact .inr ⟨both, hsilent⟩
    · obtain ⟨m, hspeaks⟩ := not_forall_not.1 hsilent
      rw [hspeaks.messages_step h] at both
      exact .inl (hspeaks.overlays both)
  · rintro (hover | ⟨both, hsilent⟩)
    · obtain ⟨m, hspeaks, both⟩ := hover.speaks
      rw [hspeaks.messages_step h]
      exact both
    · rw [messages_step_of_silent h hsilent]
      exact both

theorem after_append (v : Voyage) (es es' : List Event) :
    v.after (es ++ es') = (v.after es).after es' :=
  List.foldl_append

theorem after_concat (v : Voyage) (es : List Event) (e : Event) :
    v.after (es ++ [e]) = (v.after es).step e :=
  after_append v es [e]

/-- **Both messages stand at the end of a run** that began with one at most, exactly if one was laid
over the other and has stood there since. -/
theorem Sound.both_after_iff (h : v.Sound) (apart : ¬v.messages.Both) (es : List Event) :
    (v.after es).messages.Both ↔ v.Overlaid es := by
  induction es using List.reverseRecOn with
  | nil =>
    refine ⟨fun both => (apart both).elim, ?_⟩
    rintro ⟨before, e, later, heq, -⟩
    exact (List.append_ne_nil_of_right_ne_nil before (List.cons_ne_nil e later) heq.symm).elim
  | append_singleton es e ih =>
    rw [after_concat, both_step_iff (h.after es), ih]
    constructor
    · rintro (hover | ⟨⟨before, e₀, later, rfl, hover, hsince⟩, hsilent⟩)
      · refine ⟨es, e, [], rfl, hover, fun mid e' hmid => ?_⟩
        exact (List.append_ne_nil_of_right_ne_nil mid (List.cons_ne_nil e' [])
          (List.prefix_nil.1 hmid)).elim
      · refine ⟨before, e₀, later ++ [e], by simp, hover, fun mid e' hmid => ?_⟩
        -- The last event is silent, and so are those before it.
        rcases List.prefix_concat_iff.1 hmid with heq | hmid
        · obtain ⟨rfl, he⟩ := List.append_inj' heq rfl
          cases he
          exact hsilent
        · exact hsince mid e' hmid
    · rintro ⟨before, e₀, later, heq, hover, hsince⟩
      rcases List.eq_nil_or_concat' later with rfl | ⟨later, e', rfl⟩
      · obtain ⟨rfl, he⟩ := List.append_inj' heq rfl
        cases he
        exact .inl hover
      · rw [← List.cons_append, ← List.append_assoc] at heq
        obtain ⟨rfl, he⟩ := List.append_inj' heq rfl
        cases he
        refine .inr ⟨⟨before, e₀, later, rfl, hover, fun mid e' hmid => ?_⟩, ?_⟩
        · exact hsince mid e' (hmid.trans (List.prefix_append later [e]))
        · exact hsince later e List.prefix_rfl

/-- **The messages of a run**: every event leaves of them what it speaks, and none but those that
speak touches them; and both stand exactly if one was laid over the other and has stood there
since. -/
theorem messages_run (settings : Settings) (signer : Option Signer) (desk : Desk) (nonce : Nat)
    (now : Moment) (ledger : Ledger) (es : List Event) :
    ((start settings signer desk nonce now ledger).after es).Speaking ∧
      (((start settings signer desk nonce now ledger).after es).messages.Both ↔
        (start settings signer desk nonce now ledger).Overlaid es) := by
  have h := sound_start settings signer desk nonce now ledger
  refine ⟨⟨?_, ?_⟩, h.both_after_iff (fun both => ?_) es⟩
  · exact fun e m speaks => speaks.messages_step (h.after es)
  · exact fun e silent => messages_step_of_silent (h.after es) silent
  · exact absurd both.error Bool.false_ne_true

/-! ## Two messages at once -/

/-- The screen is loaded by the next flow, and hears of the round. -/
def reloading (flow : Nat) (o : Outcome) : List Event :=
  [.setOut .load, .news flow .turn, .news flow (.reply o)]

/-- **A load that cannot read the round leaves a success beside its error**, whatever it is the
success of. -/
theorem messages_reloading {g : Fault} (shown : v.client.screen.closed = false)
    (uncancelled : o.isCancelled = false)
    (fails : Synchronizer.snapshotOf (readingsOf o) = .error g) :
    (v.after (reloading v.flows.length o)).messages =
      ⟨some Fault.syncText, v.messages.success⟩ := by
  have hdue : (v.step (.setOut .load)).flows[v.flows.length]? = some (.ofRoutine .load) :=
    List.getElem?_concat_length
  -- In its first turn the load clears the error, and waits for the round.
  obtain ⟨t, ticket, hload, hmessages, hmove⟩ : ∃ t ticket,
      (v.step (.setOut .load)).turn? (.ofRoutine .load) .turn = some t ∧
        t.client.actions.messages = ⟨none, v.messages.success⟩ ∧
          t.move = .wait .readings [.readings ticket, .loading] := by
    refine ⟨v.client.load, v.client.sync.issue.2, rfl, ?_⟩
    rw [load, shown]
    exact ⟨rfl, rfl⟩
  have hstage := stage_of_turn hdue hload
  rw [hmove] at hstage
  obtain ⟨f, here, waits⟩ := Option.map_eq_some_iff.1 hstage
  have hends := messages_of_turn here (turn?_of_reply waits rfl uncancelled)
  have hleft := congrArg Messages.success ((messages_of_turn hdue hload).trans hmessages)
  rw [proceed_loading_of_failed uncancelled fails] at hends
  exact hends.trans (congrArg (Messages.mk _) hleft)

/-- The haul for Anne is confirmed, and the round is read after it. -/
def confirming : List Event :=
  [.news 2 .turn, .news 2 (.reply (.ok (.answer (.handle ⟨"0x1", "recordHaul"⟩)))),
    .news 2 (.reply (.ok (.answer (.receipt ⟨"0x1", .confirmed, some 1, ""⟩)))),
    .news 2 (.reply (.ok (.readings (.nat 0) [⟨"B", "Bart"⟩])))]

/-- While the haul for Anne is in flight, a new round is asked for too early; then the haul is
confirmed. -/
def racing : List Event :=
  [.news 2 .turn, .setOut .setSail, .news 3 .turn, .news 4 .turn,
    .news 2 (.reply (.ok (.answer (.handle ⟨"0x1", "recordHaul"⟩)))),
    .news 2 (.reply (.ok (.answer (.receipt ⟨"0x1", .confirmed, some 1, ""⟩))))]

/-- The haul for Anne is submitted in the first turn of its action. -/
private theorem exists_submitting : ∃ call, ∀ es,
    (moored.after reporting).after (.news 2 .turn :: es) =
      ((moored.after reporting).carry 2 (.ofRoutine (.action .haul "A" (.text "1")))
        (.await { (moored.after reporting).client with
            nonce := (moored.after reporting).client.nonce +
              ((moored.after reporting).client.signed .haul "A" (.text "1")).nonces }
          ((moored.after reporting).client.signed .haul "A" (.text "1")).notes
          (.answer (.submit call)) (.submission .haul))).after es := by
  obtain ⟨call, hcall⟩ := exists_signed_reporting
  refine ⟨call, fun es => ?_⟩
  have hstep : (moored.after reporting).step (.news 2 .turn) =
      (moored.after reporting).carry 2 (.ofRoutine (.action .haul "A" (.text "1")))
        ((moored.after reporting).client.action .haul "A" (.text "1")) := rfl
  -- The signature is not computed: whatever the call is, the action submits it.
  rw [action, hcall] at hstep
  have hcons : (moored.after reporting).after (.news 2 .turn :: es) =
      ((moored.after reporting).step (.news 2 .turn)).after es := rfl
  rw [hcons, hstep]

/-- **An error beside a success that is over**: a haul has been reported, and then the screen cannot
be loaded. -/
theorem both_after_reload :
    ((moored.after reporting).after
        (confirming ++ reloading 3 (.error (.gateway "unavailable" .null)))).messages =
      ⟨some Fault.syncText, some "Loot submitted!"⟩ := by
  obtain ⟨call, hafter⟩ := exists_submitting
  rw [after_append, confirming, hafter]
  exact messages_reloading rfl rfl rfl

/-- **A success beside an error that is over**: a haul is confirmed after another action has
failed. -/
theorem both_after_race :
    ((moored.after reporting).after racing).messages =
      ⟨some "Not all participants have reported", some "Loot submitted!"⟩ := by
  obtain ⟨call, hafter⟩ := exists_submitting
  rw [racing, hafter]
  rfl

end Voyage

end Plunder
