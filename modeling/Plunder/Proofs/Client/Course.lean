import Plunder.Proofs.Client.Signed

/-!
# The course of an action

A launched action goes through its phases one after the other: it is signed and submitted, its
transaction becomes final, and the round is read again. In each phase the outcome that the client
keeps for its kind tells how far it has come, and what was asked of the gateway tells why.

Main statements:
- `Course.begin`, `Course.reply`, `Course.turn`: a step of an action is the next phase of its course
- `afterReadings_refreshes`, `afterTurn_refreshes`: a refresh leaves the actions alone
-/

namespace Plunder

/-! ## Definitions -/

/-- How far something that was set out has come. -/
inductive Stage where
  /-- Its first turn is to come. -/
  | due
  /-- It waits for something at a stack of points. -/
  | waiting (need : Need) (points : List Point)
  | finished (o : Outcome)

def Stage.isOver : Stage → Bool
  | .finished _ => true
  | _ => false

/-- Whether the gateway is asked. -/
def Need.isOutward : Need → Bool
  | .readings | .answer _ => true
  | _ => false

namespace Move

def stage : Move → Stage
  | .done o => .finished o
  | .wait need ps => .waiting need ps

/-- What is asked of the gateway. -/
def asks : Move → List Need
  | .done _ => []
  | .wait need _ => if need.isOutward then [need] else []

/-- The action that is launched, if one is. -/
def launch? : Move → Option Routine
  | .wait (.action kind participant amount) _ => some (.action kind participant amount)
  | _ => none

end Move

/-- What was asked of the gateway for an action that fails, and what came back: nothing was asked,
no handle came for its call, or no receipt that confirms came for its handle. -/
inductive Failing (kind : ActionKind) (participant : String) (amount : Value) :
    List Need → List Outcome → Prop where
  | unsigned : Failing kind participant amount [] []
  | rejected {call : SignedCall} {o : Outcome} (signed : call.IsFor kind participant amount)
      (refused : ∀ h, o ≠ .ok (.answer (.handle h))) :
      Failing kind participant amount [.answer (.submit call)] [o]
  | reverted {call : SignedCall} {h : TransactionHandle} {o : Outcome}
      (signed : call.IsFor kind participant amount)
      (refused : ∀ r : TransactionReceipt, r.confirmed = true → o ≠ .ok (.answer (.receipt r))) :
      Failing kind participant amount [.answer (.submit call), .answer (.finality h)]
        [.ok (.answer (.handle h)), o]

/-- The course of an action: how far it has come, what it asked of the gateway and what came back,
and the outcome that the client keeps for its kind. -/
inductive Course (kind : ActionKind) (participant : String) (amount : Value) :
    Stage → List Need → List Outcome → TransactionResult → Prop where
  | due : Course kind participant amount .due [] [] (.pending kind)
  | submitting {call : SignedCall} (signed : call.IsFor kind participant amount) :
      Course kind participant amount (.waiting (.answer (.submit call)) [.submission kind])
        [.answer (.submit call)] [] (.pending kind)
  | awaiting {call : SignedCall} {h : TransactionHandle}
      (signed : call.IsFor kind participant amount) :
      Course kind participant amount (.waiting (.answer (.finality h)) [.finality kind])
        [.answer (.submit call), .answer (.finality h)] [.ok (.answer (.handle h))] (.pending kind)
  | failed {asked : List Need} {answers : List Outcome} {f : Fault} {reason : String}
      (failing : Failing kind participant amount asked answers)
      (submission : f.kind.isSubmission = true) (nonempty : reason ≠ "") :
      Course kind participant amount (.finished (.error f)) asked answers (.failure kind reason)
  | reading {call : SignedCall} {h : TransactionHandle} {r : TransactionReceipt} {ticket : Nat}
      (signed : call.IsFor kind participant amount) (confirmed : r.confirmed = true) :
      Course kind participant amount (.waiting .readings [.readings ticket, .followUp kind])
        [.answer (.submit call), .answer (.finality h), .readings]
        [.ok (.answer (.handle h)), .ok (.answer (.receipt r))] (.success kind r.txHash)
  | telling {call : SignedCall} {h : TransactionHandle} {r : TransactionReceipt} {o : Outcome}
      {ticket : Nat} {new : RoundSnapshot} {current : Listener} {others : List Listener}
      (signed : call.IsFor kind participant amount) (confirmed : r.confirmed = true) :
      Course kind participant amount
        (.waiting .turn [.listening ticket new current others, .followUp kind])
        [.answer (.submit call), .answer (.finality h), .readings]
        [.ok (.answer (.handle h)), .ok (.answer (.receipt r)), o] (.success kind r.txHash)
  | done {call : SignedCall} {h : TransactionHandle} {r : TransactionReceipt} {o : Outcome}
      (signed : call.IsFor kind participant amount) (confirmed : r.confirmed = true) :
      Course kind participant amount (.finished (.ok (.result (some (.success kind r.txHash)))))
        [.answer (.submit call), .answer (.finality h), .readings]
        [.ok (.answer (.handle h)), .ok (.answer (.receipt r)), o] (.success kind r.txHash)

namespace Actions

/-- Whether the outcomes are the same, and the same kinds are in flight. -/
def Same (a a' : Actions) : Prop :=
  ∀ k, a'.result k = a.result k ∧ a'.isPending k = a.isPending k

/-- Whether only one kind may differ, which now has some outcome and is in flight or not. -/
structure Becomes (a : Actions) (kind : ActionKind) (r : TransactionResult) (pending : Bool)
    (a' : Actions) : Prop where
  result_eq : a'.result kind = r
  pending_eq : a'.isPending kind = pending
  others : ∀ k, k ≠ kind → a'.result k = a.result k ∧ a'.isPending k = a.isPending k

/-! ## The state of the actions -/

variable {a a' : Actions} {kind k : ActionKind}

theorem Same.refl (a : Actions) : a.Same a := fun _ => ⟨rfl, rfl⟩

theorem result_setResult_self (r : TransactionResult) : (a.setResult r).result r.kind = r := by
  unfold setResult
  split <;> next h => simp [result, h]

theorem result_setResult_of_ne {r : TransactionResult} (h : k ≠ r.kind) :
    (a.setResult r).result k = a.result k := by
  unfold setResult
  split <;> next hr => cases k <;> simp_all [result]

theorem feedback_setResult (r : TransactionResult) : (a.setResult r).feedback = a.feedback := by
  unfold setResult
  split <;> rfl

theorem start_becomes (a : Actions) (kind : ActionKind) :
    a.Becomes kind (.pending kind) true (a.start kind) where
  result_eq := result_setResult_self (.pending kind)
  pending_eq := by simp [isPending, start, feedback_setResult]
  others k hk := ⟨result_setResult_of_ne hk, by simp [isPending, start, feedback_setResult, hk]⟩

theorem isPending_finish : (a.finish kind).isPending k = (a.isPending k && k != kind) := by
  simp only [isPending, finish]
  rw [Bool.eq_iff_iff]
  simp

/-- An action ends with the outcome that it has. -/
theorem finish_becomes (a : Actions) (kind : ActionKind) :
    a.Becomes kind (a.result kind) false (a.finish kind) where
  result_eq := rfl
  pending_eq := by simp [isPending_finish]
  others k hk := ⟨rfl, by simp [isPending_finish, hk]⟩

theorem fail_becomes (a : Actions) (kind : ActionKind) (f : Fault) :
    a.Becomes kind (.failure kind (reasonOf kind f)) (a.isPending kind) (a.fail kind f).1 where
  result_eq := result_setResult_self (.failure kind (reasonOf kind f))
  pending_eq := by simp [isPending, fail, feedback_setResult]
  others k hk := ⟨result_setResult_of_ne hk, by simp [isPending, fail, feedback_setResult]⟩

theorem succeed_becomes (a : Actions) (kind : ActionKind) (txHash : String) :
    a.Becomes kind (.success kind txHash) (a.isPending kind) (a.succeed kind txHash).1 where
  result_eq := result_setResult_self (.success kind txHash)
  pending_eq := by simp [isPending, succeed, feedback_setResult]
  others k hk := ⟨result_setResult_of_ne hk, by simp [isPending, succeed, feedback_setResult]⟩

/-- What happened to one kind, and then again. -/
theorem Becomes.trans {r r' : TransactionResult} {pending pending' : Bool} {a'' : Actions}
    (h : a.Becomes kind r pending a') (h' : a'.Becomes kind r' pending' a'') :
    a.Becomes kind r' pending' a'' where
  result_eq := h'.result_eq
  pending_eq := h'.pending_eq
  others k hk := ⟨(h'.others k hk).1.trans (h.others k hk).1,
    (h'.others k hk).2.trans (h.others k hk).2⟩

theorem Same.becomes (h : a.Same a') (kind : ActionKind) :
    a.Becomes kind (a.result kind) (a.isPending kind) a' :=
  ⟨(h kind).1, (h kind).2, fun k _ => h k⟩

/-- A failed action always says something. -/
theorem reasonOf_ne (kind : ActionKind) (f : Fault) : reasonOf kind f ≠ "" := by
  unfold reasonOf
  split
  · cases kind <;> decide
  · next h => simpa using h

theorem isSubmission_failureOf (kind : ActionKind) (f : Fault) :
    (failureOf kind f).kind.isSubmission = true := by
  unfold failureOf
  split
  · next h => exact h
  · rfl

end Actions

/-! ## Steps of an action -/

/-- A step of an action is the next phase of its course, and leaves the other kind alone. -/
structure Turn.Pursues (kind : ActionKind) (participant : String) (amount : Value) (a : Actions)
    (asked : List Need) (answers : List Outcome) (t : Turn) : Prop where
  course : Course kind participant amount t.move.stage (asked ++ t.move.asks) answers
    (t.client.actions.result kind)
  pending_eq : t.client.actions.isPending kind = !t.move.stage.isOver
  others : ∀ k, k ≠ kind → t.client.actions.result k = a.result k ∧
    t.client.actions.isPending k = a.isPending k
  quiet : t.move.launch? = none

/-- A step of a refresh leaves the actions alone, and it ends or waits for a listener. -/
structure Turn.Refreshes (a : Actions) (t : Turn) : Prop where
  actions_eq : t.client.actions = a
  move_eq : (∃ o, t.move = .done o) ∨
    ∃ ticket new l others, t.move = .wait .turn [.listening ticket new l others]

theorem Turn.Pursues.congr {kind : ActionKind} {participant : String} {amount : Value} {a : Actions}
    {asked : List Need} {answers : List Outcome} {t t' : Turn}
    (h : Pursues kind participant amount a asked answers t) (client : t'.client = t.client)
    (move : t'.move = t.move) : Pursues kind participant amount a asked answers t' := by
  constructor
  case course =>
    rw [client, move]
    exact h.course
  case pending_eq =>
    rw [client, move]
    exact h.pending_eq
  case others =>
    rw [client]
    exact h.others
  case quiet =>
    rw [move]
    exact h.quiet

namespace Client

open Turn Actions

variable {c : Client} {kind : ActionKind} {participant : String} {amount : Value}
  {asked : List Need} {answers : List Outcome} {o : Outcome} {f : Fault}

/-! ## Parts of refreshes -/

theorem hear_actions (c : Client) (l : Listener) (ticket : Nat) (new : RoundSnapshot) :
    (c.hear l ticket new).1.actions = c.actions := by
  cases l with
  | screen =>
    simp only [hear, hearOnScreen]
    split <;> rfl
  | named name kind => cases kind <;> rfl

theorem notify_refreshes (ticket : Nat) (new : RoundSnapshot) (ls : List Listener) (c : Client) :
    Refreshes c.actions (notify ticket new ls c) := by
  induction ls generalizing c with
  | nil => exact ⟨rfl, .inl ⟨_, rfl⟩⟩
  | cons l ls ih =>
    rw [notify]
    split
    · exact ⟨rfl, .inr ⟨ticket, new, l, ls, rfl⟩⟩
    · have h := ih (c.hear l ticket new).1
      exact ⟨h.actions_eq.trans (hear_actions c l ticket new), h.move_eq⟩

/-- A refresh goes on with its readings, or with whatever came in their place. -/
theorem afterReadings_refreshes (c : Client) (ticket : Nat) (o : Outcome) :
    Refreshes c.actions (c.afterReadings ticket o) := by
  cases ho : o.isCancelled with
  | true =>
    rw [afterReadings_of_cancelled ho]
    exact ⟨rfl, .inl ⟨_, rfl⟩⟩
  | false =>
    cases hs : Synchronizer.snapshotOf (readingsOf o) with
    | error f =>
      rw [afterReadings_of_failed ho hs]
      exact ⟨rfl, .inl ⟨_, rfl⟩⟩
    | ok new =>
      by_cases ht : ticket = c.sync.issued
      · rw [afterReadings_of_latest ho hs ht]
        have h := notify_refreshes ticket new c.sync.listeners
          { c with sync := c.sync.abandon.apply ticket new }
        exact ⟨h.actions_eq, h.move_eq⟩
      · rw [afterReadings_of_stale ho hs ht]
        exact ⟨rfl, .inl ⟨_, rfl⟩⟩

/-- A refresh goes on behind a listener. -/
theorem afterTurn_refreshes (c : Client) (ticket : Nat) (new : RoundSnapshot) (l : Listener)
    (others : List Listener) (o : Outcome) :
    Refreshes c.actions (c.afterTurn ticket new l others o) := by
  cases o with
  | error f => exact ⟨rfl, .inl ⟨_, rfl⟩⟩
  | ok r =>
    have h := notify_refreshes ticket new others (c.hear l ticket new).1
    exact ⟨h.actions_eq.trans (hear_actions c l ticket new), h.move_eq⟩

/-! ## Stacks of points -/

theorem proceed_of_wait {p : Point} {qs : List Point} {need : Need}
    (h : (c.resume o p).move = .wait need qs) (ps : List Point) :
    (c.proceed o (p :: ps)).client = (c.resume o p).client ∧
      (c.proceed o (p :: ps)).move = .wait need (qs ++ ps) := by
  simp only [proceed, h, and_self]

theorem proceed_of_done {p : Point} {o' : Outcome}
    (h : (c.resume o p).move = .done o') (ps : List Point) :
    (c.proceed o (p :: ps)).client = ((c.resume o p).client.proceed o' ps).client ∧
      (c.proceed o (p :: ps)).move = ((c.resume o p).client.proceed o' ps).move := by
  simp only [proceed, h, Turn.after, and_self]

/-- A flow that was not called by another goes on as its step does. -/
theorem proceed_singleton (c : Client) (o : Outcome) (p : Point) :
    (c.proceed o [p]).client = (c.resume o p).client ∧
      (c.proceed o [p]).move = (c.resume o p).move := by
  cases h : (c.resume o p).move with
  | wait need qs => simpa using proceed_of_wait h []
  | done o' => exact proceed_of_done h []

/-! ## Phases -/

/-- An action fails for a reason that is no cancellation. -/
theorem failAction_pursues (hf : f.kind ≠ .cancelled) (notes : List Note)
    (failing : Failing kind participant amount asked answers) :
    Pursues kind participant amount c.actions asked answers (c.failAction kind notes f) := by
  have hcancelled : (f.kind == .cancelled) = false := by simpa using hf
  simp only [failAction, hcancelled, Bool.false_eq_true, if_false]
  have hbecomes := (fail_becomes c.actions kind f).trans (finish_becomes _ kind)
  constructor
  case course =>
    -- A step that ends asks for nothing more.
    rw [show asked ++ Move.asks _ = asked from List.append_nil _]
    have hcourse : Course kind participant amount (.finished (.error (failureOf kind f))) asked
        answers (.failure kind (reasonOf kind f)) :=
      .failed failing (isSubmission_failureOf kind f) (reasonOf_ne kind f)
    have hresult := (fail_becomes c.actions kind f).result_eq
    rw [← hresult] at hcourse
    exact hcourse
  case pending_eq => exact hbecomes.pending_eq
  case others => exact hbecomes.others
  case quiet => rfl

/-- A step that leaves the actions alone and has the action wait. -/
theorem await_pursues {notes : List Note} {need : Need} {p : Point} {c' : Client}
    (same : c'.actions = c.actions) (pending : c.actions.isPending kind = true)
    (quiet : (Move.wait need [p]).launch? = none)
    (course : Course kind participant amount (.waiting need [p])
      (asked ++ (Move.wait need [p]).asks) answers (c.actions.result kind)) :
    Pursues kind participant amount c.actions asked answers (.await c' notes need p) where
  course := by
    show Course kind participant amount (.waiting need [p]) _ answers (c'.actions.result kind)
    rw [same]
    exact course
  pending_eq := by
    show c'.actions.isPending kind = true
    rw [same, pending]
  others k _ := by
    show c'.actions.result k = _ ∧ c'.actions.isPending k = _
    rw [same]
    exact ⟨rfl, rfl⟩
  quiet := quiet

/-- An action begins: its call is submitted, or it fails. -/
theorem action_pursues (pending : c.actions.isPending kind = true)
    (result : c.actions.result kind = .pending kind) :
    Pursues kind participant amount c.actions [] [] (c.action kind participant amount) := by
  unfold action
  simp only
  rcases signed_cases c kind participant amount with ⟨call, hcall, -, hfor⟩ | ⟨f, hcall, hf⟩
  · rw [hcall]
    refine await_pursues rfl pending rfl ?_
    rw [result]
    exact .submitting hfor
  · rw [hcall]
    exact failAction_pursues (c := { c with
      nonce := c.nonce + (c.signed kind participant amount).nonces }) hf _ .unsigned

theorem kind_ne_of_uncancelled (ho : Outcome.isCancelled (.error f) = false) :
    f.kind ≠ .cancelled := by
  simpa [Outcome.isCancelled] using ho

/-- An action goes on with what came for its call. -/
theorem afterSubmission_pursues {call : SignedCall} (ho : o.isCancelled = false)
    (pending : c.actions.isPending kind = true) (result : c.actions.result kind = .pending kind)
    (signed : call.IsFor kind participant amount) :
    Pursues kind participant amount c.actions [.answer (.submit call)] [o]
      (c.afterSubmission kind o) := by
  unfold afterSubmission
  split
  · refine await_pursues rfl pending rfl ?_
    rw [result]
    exact .awaiting signed
  · next hno =>
    exact failAction_pursues (by nofun) [] (.rejected signed fun h heq => hno h (Except.ok.inj heq))
  · exact failAction_pursues (kind_ne_of_uncancelled ho) [] (.rejected signed nofun)

/-- An action goes on with what came for its handle. -/
theorem afterFinality_pursues {call : SignedCall} {h : TransactionHandle}
    (ho : o.isCancelled = false) (pending : c.actions.isPending kind = true)
    (signed : call.IsFor kind participant amount) :
    Pursues kind participant amount c.actions [.answer (.submit call), .answer (.finality h)]
      [.ok (.answer (.handle h)), o] (c.afterFinality kind o) := by
  unfold afterFinality
  split
  · rename_i r
    -- A receipt has come, which may say that the transaction was reverted.
    cases hr : r.confirmed with
    | false =>
      simp only [Actions.confirm, hr, Bool.false_eq_true, if_false]
      refine failAction_pursues (by nofun) [] (.reverted signed fun r' hr' heq => ?_)
      cases heq
      rw [hr] at hr'
      cases hr'
    | true =>
      simp only [Actions.confirm, hr, if_true]
      have hbecomes := succeed_becomes c.actions kind r.txHash
      constructor
      case course =>
        -- The refresh that follows begins in the same step, with the next ticket.
        have hcourse : Course kind participant amount
            (.waiting .readings [.readings (c.sync.issued + 1), .followUp kind])
            [.answer (.submit call), .answer (.finality h), .readings]
            [.ok (.answer (.handle h)), .ok (.answer (.receipt r))] (.success kind r.txHash) :=
          .reading signed hr
        rw [← hbecomes.result_eq] at hcourse
        exact hcourse
      case pending_eq => exact hbecomes.pending_eq.trans pending
      case others => exact hbecomes.others
      case quiet => rfl
  · next hno =>
    refine failAction_pursues (by nofun) [] (.reverted signed fun r _ heq => ?_)
    exact hno r (Except.ok.inj heq)
  · exact failAction_pursues (kind_ne_of_uncancelled ho) [] (.reverted signed fun _ _ => nofun)

/-- An action ends with the refresh that follows it, even where that has failed. -/
theorem afterRefresh_pursues {call : SignedCall} {h : TransactionHandle} {r : TransactionReceipt}
    {o' : Outcome} (hsync : ∀ f, o = .error f → f.kind = .sync)
    (result : c.actions.result kind = .success kind r.txHash)
    (signed : call.IsFor kind participant amount) (confirmed : r.confirmed = true) :
    Pursues kind participant amount c.actions
      [.answer (.submit call), .answer (.finality h), .readings]
      [.ok (.answer (.handle h)), .ok (.answer (.receipt r)), o'] (c.afterRefresh kind o) := by
  have hcourse : Course kind participant amount
      (.finished (.ok (.result (some (c.actions.result kind)))))
      [.answer (.submit call), .answer (.finality h), .readings]
      [.ok (.answer (.handle h)), .ok (.answer (.receipt r)), o'] (c.actions.result kind) := by
    rw [result]
    exact .done signed confirmed
  have hbecomes := finish_becomes c.actions kind
  unfold afterRefresh
  cases o with
  | ok reply => exact ⟨hcourse, hbecomes.pending_eq, hbecomes.others, rfl⟩
  | error f =>
    have hf : (f.kind == .sync) = true := by simpa using hsync f rfl
    simp only [hf, if_true]
    exact ⟨hcourse, hbecomes.pending_eq, hbecomes.others, rfl⟩

/-- An action waits for the refresh that follows it, or ends with it. -/
theorem proceed_followUp {p : Point} {call : SignedCall} {h : TransactionHandle}
    {r : TransactionReceipt} {o' : Outcome} (refreshes : Refreshes c.actions (c.resume o p))
    (hsync : ∀ f, (c.resume o p).move = .done (.error f) → f.kind = .sync)
    (pending : c.actions.isPending kind = true)
    (result : c.actions.result kind = .success kind r.txHash)
    (signed : call.IsFor kind participant amount) (confirmed : r.confirmed = true) :
    Pursues kind participant amount c.actions
      [.answer (.submit call), .answer (.finality h), .readings]
      [.ok (.answer (.handle h)), .ok (.answer (.receipt r)), o']
      (c.proceed o [p, .followUp kind]) := by
  have hactions := refreshes.actions_eq
  rcases refreshes.move_eq with ⟨o₁, hmove⟩ | ⟨ticket, new, l, others, hmove⟩
  · -- The refresh has ended, and the action ends with it.
    obtain ⟨hclient, hmove'⟩ := proceed_of_done hmove [.followUp kind]
    obtain ⟨hclient', hmove''⟩ := proceed_singleton (c.resume o p).client o₁ (.followUp kind)
    rw [← hactions]
    refine (afterRefresh_pursues (fun f hf => hsync f (hf ▸ hmove)) ?_ signed confirmed).congr
      (hclient.trans hclient') (hmove'.trans hmove'')
    rw [hactions, result]
  · -- The refresh waits for a listener, and the action with it.
    obtain ⟨hclient, hmove'⟩ := proceed_of_wait hmove [.followUp kind]
    constructor
    case course =>
      rw [hclient, hmove', hactions, result]
      exact .telling signed confirmed
    case pending_eq =>
      rw [hclient, hmove', hactions, pending]
      rfl
    case others =>
      intro k _
      rw [hclient, hactions]
      exact ⟨rfl, rfl⟩
    case quiet =>
      rw [hmove']
      rfl

end Client

namespace Course

open Turn Client

variable {kind : ActionKind} {participant : String} {amount : Value} {asked : List Need}
  {answers : List Outcome} {c : Client} {o : Outcome} {need : Need} {ps : List Point}

/-- **An action has its first turn.** -/
theorem begin (h : Course kind participant amount .due asked answers (c.actions.result kind))
    (pending : c.actions.isPending kind = true) :
    Pursues kind participant amount c.actions asked answers
      (c.begin (.action kind participant amount)) := by
  generalize hresult : c.actions.result kind = r at h
  cases h
  exact action_pursues pending hresult

/-- **An action goes on with what came back from the gateway**, unless that is a cancellation. -/
theorem reply
    (h : Course kind participant amount (.waiting need ps) asked answers (c.actions.result kind))
    (pending : c.actions.isPending kind = true) (outward : need.isOutward = true)
    (ho : o.isCancelled = false) :
    Pursues kind participant amount c.actions asked (answers ++ [o]) (c.proceed o ps) := by
  generalize hresult : c.actions.result kind = r at h
  cases h with
  | submitting signed =>
    obtain ⟨hclient, hmove⟩ := proceed_singleton c o (.submission kind)
    exact (afterSubmission_pursues ho pending hresult signed).congr hclient hmove
  | awaiting signed =>
    obtain ⟨hclient, hmove⟩ := proceed_singleton c o (.finality kind)
    exact (afterFinality_pursues ho pending signed).congr hclient hmove
  | @reading call h r ticket signed confirmed =>
    refine proceed_followUp (afterReadings_refreshes c ticket o) ?_ pending hresult signed confirmed
    -- A refresh fails with a fault of its own, whatever its readings failed from.
    intro f hf
    obtain ⟨g, rfl, -⟩ := failed_of_afterReadings ho hf
    rfl
  | telling signed confirmed => cases outward

/-- **An action has its next turn.** -/
theorem turn
    (h : Course kind participant amount (.waiting .turn ps) asked answers (c.actions.result kind))
    (pending : c.actions.isPending kind = true) :
    Pursues kind participant amount c.actions asked answers (c.proceed (.ok .nothing) ps) := by
  generalize hresult : c.actions.result kind = r at h
  cases h with
  | @telling call h r o ticket new l others signed confirmed =>
    refine proceed_followUp (afterTurn_refreshes c ticket new l others (.ok .nothing)) ?_ pending
      hresult signed confirmed
    intro f hf
    exact (notify_move _ _ _ _ hf).elim

/-- An action asks for its call to be submitted only when it begins, and then the client has what it
takes. -/
theorem permits_of_asks {call : SignedCall}
    (h : .answer (.submit call) ∈ (c.action kind participant amount).move.asks) :
    c.Permits kind participant amount := by
  rcases signed_cases c kind participant amount with ⟨_, _, hpermits, -⟩ | ⟨f, hcall, -⟩
  · exact hpermits
  · unfold action at h
    simp only [hcall, failAction] at h
    split at h <;> cases h

variable {s : Stage} {r : TransactionResult}

/-- Nothing is asked of the gateway before a call is submitted, and no call after it. -/
theorem submit_notMem_tail (h : Course kind participant amount s asked answers r)
    (call : SignedCall) : .answer (.submit call) ∉ asked.tail := by
  cases h with
  | failed failing _ _ => cases failing <;> simp
  | _ => simp

theorem asked_ne_nil (h : Course kind participant amount (.waiting need ps) asked answers r) :
    asked ≠ [] := by
  cases h <;> simp

/-- What an action waits for is an answer of the gateway or its turn. -/
theorem need_cases (h : Course kind participant amount (.waiting need ps) asked answers r) :
    need.isOutward = true ∨ need = .turn := by
  cases h <;> first | exact .inl rfl | exact .inr rfl

end Course
end Plunder
