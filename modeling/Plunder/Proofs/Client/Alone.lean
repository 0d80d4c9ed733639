import Plunder.Proofs.Client.Errand
import Plunder.Proofs.Client.Watch
import Plunder.Proofs.Wire.Exchange

/-!
# A client alone with its ledger

A client deals with a ledger that makes its blocks at once, and nobody else acts on either. Whatever
a flow of the client waits for comes at once, and the flow goes on until it ends: its questions are
answered from the ledger as it is, its readings are both of that ledger, and an action that it
launches is carried to its end first.

Main statements:
- `Alone.unique`: the client comes to one end
- `notify_alone`: telling listeners changes neither the snapshot nor the actions
- `action_alone_of_unsigned`: an action that signs nothing
- `action_alone_of_confirmed`: an action whose call is confirmed
-/

namespace Plunder

/-! ## Definitions -/

namespace Ledger

/-- The receipt for a handle, as far as one can wait for it where no more blocks come. -/
def receiptFor (l : Ledger) (h : TransactionHandle) : Except Fault TransactionReceipt :=
  if h.txHash ∉ l.known then .error (unknownTransaction h.txHash)
  else if l.setup.finalityTimeout.isOver then .error l.finalityTimeout
  else
    match l.receipt? h.txHash with
    | some r => .ok r
    | none => .error l.finalityTimeout

/-- What comes of a question to a ledger that makes its blocks at once and on which nobody else
acts: the ledger afterwards, and the answer. -/
inductive Answers (l : Ledger) : GatewayCall → Ledger → Except Fault Answer → Prop
  | reading {q : GatewayCall} {a : Except Fault Answer} (read : l.reading? q = some a) :
      Answers l q l a
  | submit (s : SignedCall) :
      Answers l (.submit s) (l.submit s).ledger ((l.submit s).outcome.map .handle)
  | finality (h : TransactionHandle) :
      Answers l (.finality h) l ((l.receiptFor h).map .receipt)

end Ledger

/-- The way of a client that is alone with its ledger, from a step of a flow to the end of the flow:
the ledger and the client at that end, and what the flow ends with. Charts are left aside: those
that the screen orders, and flows that wait for one. -/
inductive Alone : Ledger → Turn → Ledger → Client → Outcome → Prop
  | done (l : Ledger) (c : Client) (notes : List Note) (orders : List Order) (o : Outcome) :
      Alone l ⟨c, notes, orders, .done o⟩ l c o
  /-- Both readings are of the ledger as it is. -/
  | readings {l l' : Ledger} {c c' : Client} {notes : List Note} {orders : List Order}
      {ps : List Point} {o : Outcome}
      (rest : Alone l (c.proceed (Watch.readings l l) ps) l' c' o) :
      Alone l ⟨c, notes, orders, .wait .readings ps⟩ l' c' o
  | answer {l l₁ l' : Ledger} {c c' : Client} {notes : List Note} {orders : List Order}
      {ps : List Point} {q : GatewayCall} {a : Except Fault Answer} {o : Outcome}
      (answered : l.Answers q l₁ a) (rest : Alone l₁ (c.proceed (a.map .answer) ps) l' c' o) :
      Alone l ⟨c, notes, orders, .wait (.answer q) ps⟩ l' c' o
  | turn {l l' : Ledger} {c c' : Client} {notes : List Note} {orders : List Order}
      {ps : List Point} {o : Outcome} (rest : Alone l (c.proceed (.ok .nothing) ps) l' c' o) :
      Alone l ⟨c, notes, orders, .wait .turn ps⟩ l' c' o
  /-- An action goes first, and whoever launched it hears of its end. -/
  | action {l l₁ l' : Ledger} {c c₁ c' : Client} {notes : List Note} {orders : List Order}
      {ps : List Point} {kind : ActionKind} {participant : String} {amount : Value}
      {o o₁ : Outcome} (inner : Alone l (c.begin (.action kind participant amount)) l₁ c₁ o₁)
      (rest : Alone l₁ (c₁.proceed o₁ ps) l' c' o) :
      Alone l ⟨c, notes, orders, .wait (.action kind participant amount) ps⟩ l' c' o

/-- A step of a flow that others have called: they wait beneath it, or go on with what it ended
with. -/
def Turn.atop (t : Turn) (ps : List Point) : Turn :=
  match t.move with
  | .wait need qs => { t with move := .wait need (qs ++ ps) }
  | .done o => (t.client.proceed o ps).after t.notes t.orders

/-! ## Answers -/

namespace Ledger.Answers

variable {l l₁ l₂ : Ledger} {q : GatewayCall} {a b : Except Fault Answer}

theorem unique (h : l.Answers q l₁ a) (h' : l.Answers q l₂ b) : l₂ = l₁ ∧ b = a := by
  cases h with
  | reading read =>
    cases h' with
    | reading read' => exact ⟨rfl, Option.some.inj (read'.symm.trans read)⟩
    | submit s => cases read
    | finality h => cases read
  | submit s =>
    cases h' with
    | reading read => cases read
    | submit _ => exact ⟨rfl, rfl⟩
  | finality h =>
    cases h' with
    | reading read => cases read
    | finality _ => exact ⟨rfl, rfl⟩

/-- What comes of a question is one of the things that can come of it. -/
theorem serves (h : l.Answers q l₁ a) : l.Serves q l₁ a := by
  cases h with
  | reading read => exact .reading read
  | submit s => exact .submit s
  | finality h =>
    unfold receiptFor
    split
    · next hnew => exact .unknown hnew
    · next hknown =>
      rw [not_not] at hknown
      -- Nothing happens to the ledger during the wait.
      have late : l.Serves (.finality h) l (.error l.finalityTimeout) := .late hknown []
      split
      · exact late
      · split
        · next r hr => exact .final hknown [] hr
        · exact late

/-- A question is at most one event for the ledger. -/
theorem run (h : l.Answers q l₁ a) : ∃ es, l₁ = l.run es := by
  cases h with
  | reading _ => exact ⟨[], rfl⟩
  | submit s => exact ⟨[.submit s], rfl⟩
  | finality _ => exact ⟨[], rfl⟩

end Ledger.Answers

/-! ## The way of the client -/

theorem Turn.atop_after (t : Turn) (notes : List Note) (orders : List Order) (ps : List Point) :
    (t.after notes orders).atop ps = (t.atop ps).after notes orders := by
  unfold Turn.atop Turn.after
  cases t.move <;> simp

namespace Alone

variable {l l' l₁ : Ledger} {t : Turn} {c' c₁ : Client} {o o₁ : Outcome}

/-- **The client comes to one end.** -/
theorem unique (h : Alone l t l' c' o) (h' : Alone l t l₁ c₁ o₁) :
    l₁ = l' ∧ c₁ = c' ∧ o₁ = o := by
  induction h generalizing l₁ c₁ o₁ with
  | done =>
    cases h'
    exact ⟨rfl, rfl, rfl⟩
  | readings _ ih =>
    cases h' with
    | readings rest => exact ih rest
  | answer answered _ ih =>
    cases h' with
    | answer answered' rest =>
      obtain ⟨rfl, rfl⟩ := answered.unique answered'
      exact ih rest
  | turn _ ih =>
    cases h' with
    | turn rest => exact ih rest
  | action _ _ inner_ih rest_ih =>
    cases h' with
    | action inner rest =>
      obtain ⟨rfl, rfl, rfl⟩ := inner_ih inner
      exact rest_ih rest

/-- What the client does to the ledger is a run of it. -/
theorem run (h : Alone l t l' c' o) : ∃ es, l' = l.run es := by
  induction h with
  | done => exact ⟨[], rfl⟩
  | readings _ ih => exact ih
  | answer answered _ ih =>
    obtain ⟨es, rfl⟩ := answered.run
    obtain ⟨fs, rfl⟩ := ih
    exact ⟨es ++ fs, (Ledger.run_append _ es fs).symm⟩
  | turn _ ih => exact ih
  | action _ _ inner_ih rest_ih =>
    obtain ⟨es, rfl⟩ := inner_ih
    obtain ⟨fs, rfl⟩ := rest_ih
    exact ⟨es ++ fs, (Ledger.run_append _ es fs).symm⟩

/-- What was noted and ordered before does not matter. -/
theorem after (h : Alone l t l' c' o) (notes : List Note) (orders : List Order) :
    Alone l (t.after notes orders) l' c' o := by
  cases h with
  | done => exact .done ..
  | readings rest => exact .readings rest
  | answer answered rest => exact .answer answered rest
  | turn rest => exact .turn rest
  | action inner rest => exact .action inner rest

theorem atop_after {ps : List Point} (h : Alone l (t.atop ps) l' c' o) (notes : List Note)
    (orders : List Order) : Alone l ((t.after notes orders).atop ps) l' c' o := by
  rw [Turn.atop_after]
  exact h.after notes orders

end Alone

namespace Client

variable {c : Client} {l l₁ : Ledger} {kind : ActionKind} {participant : String} {amount : Value}

theorem proceed_eq_atop (c : Client) (o : Outcome) (p : Point) (ps : List Point) :
    c.proceed o (p :: ps) = (c.resume o p).atop ps := rfl

/-! ## Refreshing -/

theorem hear_snapshot (c : Client) (li : Listener) (ticket : Nat) (new : RoundSnapshot) :
    (c.hear li ticket new).1.sync.snapshot = c.sync.snapshot := by
  have hsilent := congrArg Synchronizer.snapshot (hear_sync c li ticket new)
  exact hsilent

/-- **Telling listeners** comes to an end, and changes neither the snapshot nor the actions. Those
who called the refresh go on with the snapshot. -/
theorem notify_alone (ticket : Nat) (new : RoundSnapshot) (ls : List Listener) (c : Client) :
    ∃ c₁ : Client, c₁.sync.snapshot = c.sync.snapshot ∧ c₁.actions = c.actions ∧
      ∀ l ps l' c' o, Alone l (c₁.proceed (.ok (.snapshot (some new))) ps) l' c' o →
        Alone l ((notify ticket new ls c).atop ps) l' c' o := by
  induction ls generalizing c with
  | nil => exact ⟨c, rfl, rfl, fun l ps l' c' o h => h.after [] []⟩
  | cons li ls ih =>
    obtain ⟨c₁, hsnapshot, hactions, hrest⟩ := ih (c.hear li ticket new).1
    refine ⟨c₁, hsnapshot.trans (hear_snapshot c li ticket new),
      hactions.trans (hear_actions c li ticket new), fun l ps l' c' o h => ?_⟩
    have htold := (hrest l ps l' c' o h).atop_after
      (c.hear li ticket new).2.1 (c.hear li ticket new).2.2
    -- Whether or not the listener waits, those behind it are told next.
    rw [notify]
    split
    · -- The listener lets others go first, and hears of the snapshot in its turn.
      exact .turn htold
    · exact htold

/-- **The readings of the latest refresh** put the round of the ledger in place. -/
theorem readings_alone (c : Client) (round : 0 ≤ l.round) :
    ∃ c₁ : Client, c₁.sync.snapshot = some ⟨l.round.toNat, l.outstanding⟩ ∧
      c₁.actions = c.actions ∧
        ∀ ps l' c' o, Alone l (c₁.proceed
            (.ok (.snapshot (some ⟨l.round.toNat, l.outstanding⟩))) ps) l' c' o →
          Alone l (c.proceed (Watch.readings l l) (.readings c.sync.issued :: ps)) l' c' o := by
  obtain ⟨c₁, hsnapshot, hactions, hrest⟩ :=
    notify_alone c.sync.issued ⟨l.round.toNat, l.outstanding⟩ c.sync.listeners
      { c with sync := c.sync.abandon.apply c.sync.issued ⟨l.round.toNat, l.outstanding⟩ }
  refine ⟨c₁, hsnapshot, hactions, fun ps l' c' o h => ?_⟩
  -- Nobody has drawn a later ticket, so that the snapshot is put in place.
  rw [proceed_eq_atop, resume, afterReadings_of_latest rfl (Watch.snapshotOf_readings round) rfl]
  exact (hrest l ps l' c' o h).atop_after _ _

/-! ## Actions -/

/-- **An action that signs nothing** fails, and the ledger is not asked. -/
theorem action_alone_of_unsigned (l : Ledger) {f : Fault}
    (unsigned : (c.signed kind participant amount).call = .error f) (hf : f.kind ≠ .cancelled) :
    ∃ c' : Client, c'.sync = c.sync ∧
      c'.actions = (c.actions.fail kind f).1.finish kind ∧
        Alone l (c.begin (.action kind participant amount)) l c'
          (.error (Actions.failureOf kind f)) := by
  have hcancelled : (f.kind == .cancelled) = false := by simpa using hf
  refine ⟨{ c with
    nonce := c.nonce + (c.signed kind participant amount).nonces
    actions := (c.actions.fail kind f).1.finish kind }, rfl, rfl, ?_⟩
  simp only [begin, action, unsigned, failAction, hcancelled]
  exact .done ..

/-- **An action whose call is confirmed** ends with the receipt of its transaction and with the
round of the ledger in place. -/
theorem action_alone_of_confirmed {call : SignedCall} {h : TransactionHandle}
    {r : TransactionReceipt} (signed : (c.signed kind participant amount).call = .ok call)
    (submitted : l.Answers (.submit call) l₁ (.ok (.handle h)))
    (final : l₁.Answers (.finality h) l₁ (.ok (.receipt r))) (confirmed : r.confirmed = true)
    (round : 0 ≤ l₁.round) :
    ∃ c' : Client, c'.sync.snapshot = some ⟨l₁.round.toNat, l₁.outstanding⟩ ∧
      c'.actions = (c.actions.succeed kind r.txHash).1.finish kind ∧
        Alone l (c.begin (.action kind participant amount)) l₁ c'
          (.ok (.result (some (.success kind r.txHash)))) := by
  -- The client that begins the refresh, once the receipt is there.
  let c₀ : Client := { c with
    nonce := c.nonce + (c.signed kind participant amount).nonces
    actions := (c.actions.succeed kind r.txHash).1
    sync := c.sync.issue.1 }
  obtain ⟨c₁, hsnapshot, hactions, hrest⟩ := c₀.readings_alone round
  have hresult : c₁.actions.result kind = .success kind r.txHash := by
    rw [hactions]
    exact (Actions.succeed_becomes c.actions kind r.txHash).result_eq
  refine ⟨{ c₁ with actions := c₁.actions.finish kind }, hsnapshot, by rw [hactions], ?_⟩
  -- Once the listeners have been told, the action is over.
  have hend : Alone l₁ (c₁.proceed (.ok (.snapshot (some ⟨l₁.round.toNat, l₁.outstanding⟩)))
      [.followUp kind]) l₁ { c₁ with actions := c₁.actions.finish kind }
      (.ok (.result (some (.success kind r.txHash)))) := by
    rw [← hresult]
    exact .done ..
  have hconfirm : Actions.confirm r = .ok r.txHash := if_pos confirmed
  simp only [begin, action, signed]
  refine .answer submitted (.answer final ?_)
  show Alone l₁ (proceed _ (.ok (.answer (.receipt r))) [.finality kind]) l₁ _ _
  rw [proceed_eq_atop]
  simp only [resume, afterFinality, hconfirm]
  exact .readings (hrest _ _ _ _ hend)

end Client
end Plunder
