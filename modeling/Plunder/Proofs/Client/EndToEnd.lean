import Plunder.Proofs.Client.Alone
import Plunder.Proofs.Ledger.Immediate

/-!
# Actions from end to end

A client whose copy of the round is that of its ledger reports a haul or starts a new round, and
nobody else acts meanwhile. What the client checks before it signs and what the ledger checks before
it lets a call take effect are written down in two places, and come to the same: a call that is
signed takes effect, and what would not take effect is not signed.

Main statements:
- `exists_signed`: what is granted is signed, verified, and let take effect by the rules
- `granted_of_signed`: what is signed is granted
- `ends_alone`: what becomes of the ledger and of the client in the end
- `inTune_asked`: the client stays in tune with the ledger, whatever it is asked for
-/

namespace Plunder

/-! ## Definitions -/

/-- Whether a client with some signer is in tune with a ledger: the ledger makes its blocks at once
and leaves time to wait for them, the signer may act there, and the client's copy of the round is
that of the ledger. -/
structure Client.InTune (c : Client) (l : Ledger) (signer : Signer) : Prop where
  immediate : l.setup.blockTime = none
  patient : l.setup.finalityTimeout.isOver = false
  signer_eq : c.actions.signer = some signer
  /-- Every signer that comes out of a credential is. -/
  genuine : signer.Genuine
  operates : l.setup.operators = [] ∨ signer.address ∈ l.setup.operators
  home : l.setup.contractAddress = "" ∨ signer.contract = "" ∨
    signer.contract = l.setup.contractAddress
  current : c.sync.snapshot = some ⟨l.round.toNat, l.outstanding⟩

/-- What is asked of a client that changes the ledger: to report a haul of a participant and in an
amount as it was typed, or to start a new round. -/
inductive Ask where
  | haul (participant amount : String)
  | advance

namespace Ask

def kind : Ask → ActionKind
  | haul _ _ => .haul
  | advance => .advance

def participant : Ask → String
  | haul p _ => p
  | advance => ""

def amount : Ask → Value
  | haul _ s => .text s
  | advance => .null

def routine : Ask → Routine
  | haul p s => .submitHaul (some p) (some (.text s))
  | advance => .advanceRound

/-- Whether what is asked for can be done: the participant has yet to report and the text is an
amount, short enough to be written out in base units; or everybody has reported in the copy of the
round. -/
def Granted (l : Ledger) (c : Client) : Ask → Prop
  | haul p s =>
    p ∈ l.outstanding.map (·.address) ∧ ∃ n, Amount.parse s = .ok n ∧ Wire.Short n
  | advance => c.sync.complete = true

/-- Whether what was asked for has been done, and nothing else. -/
def Done (l : Ledger) (c : Client) (l' : Ledger) (c' : Client) : Ask → Prop
  | haul p s => ∃ n m, Amount.parse s = .ok n ∧ l.total? p = some m ∧
      l'.total? p = some (m + n) ∧ (∀ q, q ≠ p → l'.total? q = l.total? q) ∧
        l'.outstanding = l.outstanding.filter (·.address ≠ p) ∧ l'.round = l.round ∧
          c'.actions.feedback.amount = .text ""
  | advance => l'.round = l.round + 1 ∧ l'.outstanding = l.setup.roster ∧
      (∀ q, l'.total? q = l.total? q) ∧ c'.actions.feedback.amount = c.actions.feedback.amount

/-- How what was asked for ends, for the ledger, for the client, and for whoever asked. -/
structure Ends (ask : Ask) (l : Ledger) (c : Client) (l' : Ledger) (c' : Client) (o : Outcome) :
    Prop where
  /-- It succeeds exactly if it can be done. -/
  success_iff : (∃ hash, o = .ok (.result (some (.success ask.kind hash)))) ↔ ask.Granted l c
  granted : ask.Granted l c → ask.Done l c l' c'
  /-- Otherwise whoever asked is told of a failed submission, and nothing has changed. -/
  refused : ¬ ask.Granted l c → (∃ f, o = .error f ∧ f.kind.isSubmission = true) ∧ l' = l ∧
    c'.sync = c.sync ∧ c'.actions.feedback.amount = c.actions.feedback.amount
  /-- The client is in tune with the ledger again, with a copy of the round that is the ledger's. -/
  tuned : ∀ signer, c.InTune l signer → c'.InTune l' signer
  /-- Nothing of the kind is in flight any more, its outcome is kept, and the other kind is as it
  was. -/
  settled : (∃ hash, o = .ok (.result (some (.success ask.kind hash))) ∧
      c.actions.Becomes ask.kind (.success ask.kind hash) false c'.actions) ∨
    ∃ f reason, o = .error f ∧ reason ≠ "" ∧
      c.actions.Becomes ask.kind (.failure ask.kind reason) false c'.actions

/-- The effect that a ledger is to take. -/
def Means (e : Ledger.Effect) : Ask → Prop
  | haul p s => ∃ n, Amount.parse s = .ok n ∧ e = .credit p n
  | advance => e = .advance

end Ask

/-- Whether a signed call is one that a signer has built for its contract and signed. -/
structure SignedCall.Proper (s : SignedCall) (signer : Signer) : Prop where
  verified : s.verify = .ok true
  contract_eq : s.call.contract = signer.contract
  texts : s.call.HasTextParams

/-- A client that is alone with its ledger is asked for one thing after the other, and what it would
sign is new to the ledger each time. -/
inductive Client.Asked : Ledger → Client → List Ask → Ledger → Client → Prop
  | nil (l : Ledger) (c : Client) : Asked l c [] l c
  | cons {l l₁ l' : Ledger} {c c₁ c' : Client} {ask : Ask} {asks : List Ask} {o : Outcome}
      (new : ∀ call hash, (c.signed ask.kind ask.participant ask.amount).call = .ok call →
        call.txHash = .ok hash → hash ∉ l.known)
      (goes : Alone l (c.begin ask.routine) l₁ c₁ o) (rest : Asked l₁ c₁ asks l' c') :
      Asked l c (ask :: asks) l' c'

/-! ## Signing -/

namespace Signer

/-- What a genuine signer has built itself, it signs properly. -/
theorem exists_proper {s : Signer} (genuine : s.Genuine) (now : Moment) (nonce : Nat) (m : Method)
    {params : Fields} (texts : (s.call now nonce m params).HasTextParams) :
    ∃ call, s.sign (s.call now nonce m params) = .ok call ∧
      call.call = s.call now nonce m params ∧ call.Proper s := by
  obtain ⟨signature, h⟩ := s.exists_sign now nonce m texts
  obtain ⟨-, hverified⟩ := verify_of_sign genuine h
  exact ⟨_, h, rfl, hverified, rfl, texts⟩

end Signer

/-! ## The rules on what is signed -/

namespace Ledger

variable {l : Ledger} {signer : Signer} {now : Moment} {nonce n : Nat} {participant : String}

/-- The report of a haul, as a signer builds it. -/
theorem judge_recordHaul (acts : l.mayAct signer.address = true)
    (listed : (l.total? participant).isSome = true) (unreported : participant ∉ l.reported)
    (short : Wire.Short n) :
    l.judge (signer.call now nonce .recordHaul [("participant", .text participant),
      ("amount", .text (String.ofList (Text.natDigits n)))]) =
        .ok (.ok (.credit participant n)) := by
  refine judge_eq_credit_iff.2 ⟨acts, ?_, ?_, listed, unreported⟩
  · simp [LedgerCall.isReportOf, LedgerCall.isReport, LedgerCall.participant?, Signer.call, param,
      Fields.get?, Value.text?]
  · simp [LedgerCall.amount?, Signer.call, param, Fields.get?, short.toWhole, Except.toOption]

/-- The call for a new round, as a signer builds it. -/
theorem judge_advanceRound (acts : l.mayAct signer.address = true) (complete : l.outstanding = []) :
    l.judge (signer.call now nonce .advanceRound []) = .ok (.ok .advance) :=
  judge_eq_advance_iff.2 ⟨acts, beq_self_eq_true _, complete⟩

end Ledger

/-! ## Actions that have ended -/

namespace Actions

variable (a : Actions) (kind : ActionKind)

/-- An action that was launched has ended with a success. -/
theorem success_becomes (hash : String) :
    a.Becomes kind (.success kind hash) false
      (((a.start kind).succeed kind hash).1.finish kind) := by
  have hsucceed := succeed_becomes (a.start kind) kind hash
  have hfinish := finish_becomes ((a.start kind).succeed kind hash).1 kind
  rw [hsucceed.result_eq] at hfinish
  exact (start_becomes a kind).trans (hsucceed.trans hfinish)

/-- An action that was launched has ended with a failure. -/
theorem failure_becomes (f : Fault) :
    a.Becomes kind (.failure kind (reasonOf kind f)) false
      (((a.start kind).fail kind f).1.finish kind) := by
  have hfail := fail_becomes (a.start kind) kind f
  have hfinish := finish_becomes ((a.start kind).fail kind f).1 kind
  rw [hfail.result_eq] at hfinish
  exact (start_becomes a kind).trans (hfail.trans hfinish)

theorem signer_start : (a.start kind).signer = a.signer := by
  cases kind <;> rfl

theorem signer_fail (f : Fault) : ((a.fail kind f).1.finish kind).signer = a.signer := by
  cases kind <;> rfl

theorem signer_succeed (hash : String) :
    ((a.succeed kind hash).1.finish kind).signer = a.signer := by
  cases kind <;> rfl

theorem amount_start : (a.start kind).feedback.amount = a.feedback.amount := by
  simp [start, feedback_setResult]

theorem amount_fail (f : Fault) :
    ((a.fail kind f).1.finish kind).feedback.amount = a.feedback.amount := by
  simp [fail, finish, feedback_setResult]

/-- Only a reported haul empties the amount. -/
theorem amount_succeed (hash : String) :
    ((a.succeed kind hash).1.finish kind).feedback.amount =
      match kind with
      | .haul => .text ""
      | .advance => a.feedback.amount := by
  cases kind <;> simp [succeed, finish, feedback_setResult]

end Actions

namespace Client

variable {c c' : Client} {l l' : Ledger} {signer : Signer} {ask : Ask}

theorem InTune.keep (h : c.InTune l signer) (setup : l'.setup = l.setup)
    (same : c'.actions.signer = c.actions.signer)
    (current : c'.sync.snapshot = some ⟨l'.round.toNat, l'.outstanding⟩) :
    c'.InTune l' signer where
  immediate := setup ▸ h.immediate
  patient := setup ▸ h.patient
  signer_eq := same.trans h.signer_eq
  genuine := h.genuine
  operates := setup ▸ h.operates
  home := setup ▸ h.home
  current := current

/-! ## What is signed -/

/-- **What is granted** is signed, and the rules let it take effect. -/
theorem exists_signed (tune : c.InTune l signer) (named : ∀ q ∈ l.setup.roster, q.address ≠ "")
    (keys : l.totals.map (·.1) = l.setup.addresses) (granted : ask.Granted l c) :
    ∃ call e, (c.signed ask.kind ask.participant ask.amount).call = .ok call ∧
      call.Proper signer ∧ l.judge call.call = .ok (.ok e) ∧ ask.Means e := by
  have hacts := Ledger.mayAct_iff.2 tune.operates
  cases ask with
  | haul p s =>
    obtain ⟨hp, n, hn, short⟩ := granted
    obtain ⟨q, hq, rfl⟩ := List.mem_map.1 hp
    obtain ⟨hroster, hunreported⟩ := Ledger.mem_outstanding_iff.1 hq
    -- The ledger looks the participant up among the totals, the client among the outstanding.
    have hlisted : (l.total? q.address).isSome = true := by
      rw [Ledger.total?_isSome_iff, keys]
      exact List.mem_map_of_mem hroster
    have hhaul : Actions.haulOf c.sync.snapshot q.address (.text s) = .ok ⟨q.address, n⟩ := by
      have hout : (⟨l.round.toNat, l.outstanding⟩ : RoundSnapshot).isOutstanding q.address = true :=
        List.any_eq_true.2 ⟨q, hq, beq_self_eq_true _⟩
      have hparts : HaulSubmission.ofParts q.address n = .ok ⟨q.address, n⟩ :=
        HaulSubmission.ofParts_eq_ok_iff.2 ⟨named q hroster, rfl⟩
      simp [Actions.haulOf, tune.current, hout, Amount.parseValue, hn, hparts, Except.mapError,
        bind, Except.bind]
    obtain ⟨call, hsign, hcall, hproper⟩ :=
      Signer.exists_proper tune.genuine c.now c.nonce .recordHaul
        ⟨[("participant", q.address), ("amount", String.ofList (Text.natDigits n))], by simp, rfl⟩
    refine ⟨call, .credit q.address n, ?_, hproper, ?_, n, hn, rfl⟩
    · show (c.actions.signHaul c.now c.nonce c.sync.snapshot q.address (.text s)).call = _
      simp only [Actions.signHaul, Actions.requireSigner, tune.signer_eq, hhaul, Signer.recordHaul,
        short.inline, bind, Except.bind]
      exact hsign
    · rw [hcall]
      exact Ledger.judge_recordHaul hacts hlisted hunreported short
  | advance =>
    have hcomplete : (c.sync.snapshot.map (·.complete)).getD false = true := granted
    obtain ⟨call, hsign, hcall, hproper⟩ :=
      Signer.exists_proper tune.genuine c.now c.nonce .advanceRound ⟨[], List.nodup_nil, rfl⟩
    refine ⟨call, .advance, ?_, hproper, ?_, rfl⟩
    · show (c.actions.signAdvance c.now c.nonce c.sync.snapshot).call = _
      simp only [Actions.signAdvance, Actions.requireSigner, tune.signer_eq, hcomplete, if_true]
      exact hsign
    · rw [hcall]
      refine Ledger.judge_advanceRound hacts ?_
      rw [tune.current] at hcomplete
      simpa [RoundSnapshot.complete] using hcomplete

/-- **What is signed** is granted. -/
theorem granted_of_signed (tune : c.InTune l signer) {call : SignedCall}
    (signed : (c.signed ask.kind ask.participant ask.amount).call = .ok call) :
    ask.Granted l c := by
  rcases signed_cases c ask.kind ask.participant ask.amount with
    ⟨call', hcall, ⟨-, new, hnew, hpermits⟩, hfor⟩ | ⟨f, hf, -⟩
  · rw [tune.current] at hnew
    obtain rfl := Option.some.inj hnew
    cases ask with
    | haul p s =>
      obtain ⟨hout, -⟩ := hpermits
      obtain ⟨n, text, hn, htext, -⟩ := hfor
      obtain ⟨q, hq, hqp⟩ := List.any_eq_true.1 hout
      have hparse : Amount.parse s = .ok n := by
        cases hs : Amount.parse s with
        | ok m => simpa [Ask.amount, Amount.parseValue, hs, Except.mapError] using hn
        | error f => simp [Ask.amount, Amount.parseValue, hs, Except.mapError] at hn
      refine ⟨List.mem_map.2 ⟨q, hq, eq_of_beq hqp⟩, n, hparse, ?_⟩
      -- There would be no text for a longer number.
      by_contra hlong
      simp [Value.nat, Value.inline?, Value.show?, Numeral.intText?, Wire.Short] at htext hlong
      omega
    | advance =>
      show (c.sync.snapshot.map (·.complete)).getD false = true
      rw [tune.current]
      exact hpermits
  · rw [signed] at hf
    cases hf

/-! ## From end to end -/

/-- What is asked for launches its action. -/
theorem begin_ask (idle : c.actions.isPending ask.kind = false) :
    ∃ note, c.begin ask.routine =
      ⟨{ c with actions := c.actions.start ask.kind }, [note], [],
        .wait (.action ask.kind ask.participant ask.amount) []⟩ := by
  have hinvoked : c.invoked? ask.routine = some (ask.kind, ask.participant, ask.amount) := by
    cases ask <;> rfl
  obtain ⟨note, hbegin⟩ := begin_of_idle hinvoked idle
  refine ⟨note, hbegin.trans ?_⟩
  cases ask <;> rfl

/-- An action that was launched signs what it would have signed before. -/
theorem signed_start (c : Client) (kind k : ActionKind) (participant : String) (amount : Value) :
    ({ c with actions := c.actions.start k }).signed kind participant amount =
      c.signed kind participant amount := by
  cases kind <;>
    simp only [signed, Actions.signHaul, Actions.signAdvance, Actions.requireSigner,
      Actions.signer_start]

/-- Whoever asked hears how the action ended. -/
private theorem alone_ask (idle : c.actions.isPending ask.kind = false) {c' : Client} {o : Outcome}
    (inner : Alone l ({ c with actions := c.actions.start ask.kind }.begin
      (.action ask.kind ask.participant ask.amount)) l' c' o) :
    Alone l (c.begin ask.routine) l' c' o := by
  obtain ⟨note, hbegin⟩ := begin_ask idle
  rw [hbegin]
  exact .action inner (.done ..)

/-- An effect that is what was asked for does that and nothing else. -/
theorem done_of_enacts {hash : String} {e : Ledger.Effect} (means : ask.Means e)
    (keys : l.totals.map (·.1) = l.setup.addresses) (granted : ask.Granted l c)
    (enacts : l.Enacts hash e l') {c' : Client}
    (actions : c'.actions = ((c.actions.start ask.kind).succeed ask.kind hash).1.finish ask.kind) :
    ask.Done l c l' c' := by
  have hamount := Actions.amount_succeed (c.actions.start ask.kind) ask.kind hash
  rw [← actions] at hamount
  cases ask with
  | haul p s =>
    obtain ⟨n, hn, rfl⟩ := means
    obtain ⟨q, hq, rfl⟩ := List.mem_map.1 granted.1
    have hlisted : (l.total? q.address).isSome = true := by
      rw [Ledger.total?_isSome_iff, keys]
      exact List.mem_map_of_mem (Ledger.mem_outstanding_iff.1 hq).1
    obtain ⟨m, hm⟩ := Option.isSome_iff_exists.1 hlisted
    refine ⟨n, m, hn, hm, ?_, fun a ha => ?_, ?_, enacts.round_eq, hamount⟩
    · rw [enacts.total?_eq, Ledger.total?_effect_credit, hm, Option.map_some, if_pos rfl]
    · rw [enacts.total?_eq, Ledger.total?_effect_credit]
      simp [ha]
    · rw [enacts.outstanding_eq, Ledger.outstanding_effect_credit]
  | advance =>
    obtain rfl := means
    refine ⟨enacts.round_eq, ?_, fun a => enacts.total?_eq a, ?_⟩
    · rw [enacts.outstanding_eq, Ledger.outstanding_effect_advance]
    · exact hamount.trans (Actions.amount_start _ _)

/-- What cannot be done ends before the ledger is asked. -/
theorem ends_of_refused (tune : c.InTune l signer) (idle : c.actions.isPending ask.kind = false)
    (refused : ¬ ask.Granted l c) :
    ∃ c' o, Alone l (c.begin ask.routine) l c' o ∧ ask.Ends l c l c' o := by
  rcases signed_cases c ask.kind ask.participant ask.amount with
    ⟨call, hcall, -⟩ | ⟨f, hunsigned, hf⟩
  · exact (refused (granted_of_signed tune hcall)).elim
  · rw [← signed_start c ask.kind ask.kind] at hunsigned
    obtain ⟨c', hsync, hactions, inner⟩ := action_alone_of_unsigned l hunsigned hf
    refine ⟨c', _, alone_ask idle inner, ?_⟩
    constructor
    case success_iff => exact ⟨fun ⟨_, h⟩ => (nomatch h), fun h => (refused h).elim⟩
    case granted => exact fun h => (refused h).elim
    case refused =>
      refine fun _ => ⟨⟨_, rfl, Actions.isSubmission_failureOf _ _⟩, rfl, hsync, ?_⟩
      rw [hactions, Actions.amount_fail, Actions.amount_start]
    case tuned =>
      intro signer' tune'
      refine tune'.keep rfl ?_ (hsync ▸ tune'.current)
      rw [hactions, Actions.signer_fail, Actions.signer_start]
    case settled =>
      refine .inr ⟨_, Actions.reasonOf ask.kind f, rfl, Actions.reasonOf_ne _ _, ?_⟩
      rw [hactions]
      exact Actions.failure_becomes c.actions ask.kind f

/-- What can be done is confirmed by the ledger. -/
theorem ends_of_granted {s : Ledger.Setup} {es : List Ledger.Event}
    (reached : l = (Ledger.fresh s).run es) (named : ∀ q ∈ s.roster, q.address ≠ "")
    (tune : c.InTune l signer) (idle : c.actions.isPending ask.kind = false)
    (new : ∀ call hash, (c.signed ask.kind ask.participant ask.amount).call = .ok call →
      call.txHash = .ok hash → hash ∉ l.known) (granted : ask.Granted l c) :
    ∃ l' c' o, Alone l (c.begin ask.routine) l' c' o ∧ ask.Ends l c l' c' o := by
  have hsetup : l.setup = s := reached ▸ Ledger.run_setup _ es
  have hkeys : l.totals.map (·.1) = l.setup.addresses := by
    obtain ⟨ds, lost, h, -⟩ := Ledger.exists_history (Ledger.fresh s) es
    exact reached ▸ h.balanced.keys_eq
  obtain ⟨call, e, hcall, hproper, hjudge, hmeans⟩ :=
    exists_signed tune (hsetup ▸ named) hkeys granted
  obtain ⟨hash, hhash⟩ := SignedCall.exists_txHash hproper.texts.readable
  -- The ledger accepts the call, and does at once what the rules say of it.
  have hfits : l.accept call = .ok hash := by
    refine Ledger.accept_eq_ok_iff.2
      ⟨?_, fun _ => hproper.verified, hhash, new call hash hcall hhash⟩
    rw [Ledger.isForeign_eq_false_iff, hproper.contract_eq]
    exact tune.home
  obtain ⟨henacts, houtcome⟩ : l.Enacts hash e (l.submit call).ledger ∧
      (l.submit call).outcome = .ok ⟨hash, call.call.method⟩ := by
    subst reached
    exact Ledger.enacts_submit (hsetup ▸ tune.immediate) es hfits hjudge
  -- The questions of the action, with their answers.
  obtain ⟨r, hreceipt, rfl, hconfirmed⟩ := henacts.receipt
  have hsubmitted := Ledger.Answers.submit (l := l) call
  have hround : 0 ≤ (l.submit call).ledger.round := by
    obtain ⟨fs, hrun⟩ := hsubmitted.run
    rw [hrun, reached, ← Ledger.run_append]
    exact (Ledger.round_le s _).1
  rw [houtcome] at hsubmitted
  have hfinal := Ledger.Answers.finality (l := (l.submit call).ledger) ⟨r.txHash, call.call.method⟩
  have hwait : (l.submit call).ledger.receiptFor ⟨r.txHash, call.call.method⟩ = .ok r := by
    simp [Ledger.receiptFor, henacts.known, henacts.setup_eq, tune.patient, hreceipt]
  rw [hwait] at hfinal
  rw [← signed_start c ask.kind ask.kind] at hcall
  obtain ⟨c', hcurrent, hactions, inner⟩ :=
    action_alone_of_confirmed hcall hsubmitted hfinal hconfirmed hround
  have hdone := done_of_enacts hmeans hkeys granted henacts hactions
  refine ⟨_, c', _, alone_ask idle inner, ?_⟩
  constructor
  case success_iff => exact ⟨fun _ => granted, fun _ => ⟨_, rfl⟩⟩
  case granted => exact fun _ => hdone
  case refused => exact fun h => (h granted).elim
  case tuned =>
    intro signer' tune'
    refine tune'.keep henacts.setup_eq ?_ hcurrent
    rw [hactions, Actions.signer_succeed, Actions.signer_start]
  case settled =>
    refine .inl ⟨_, rfl, ?_⟩
    rw [hactions]
    exact Actions.success_becomes c.actions ask.kind r.txHash

/-- What is asked for while an action of the kind is in flight is refused at once. -/
theorem alone_of_pending (l : Ledger) (pending : c.actions.isPending ask.kind = true) :
    Alone l (c.begin ask.routine) l c (.error (Actions.inProgress ask.kind)) := by
  cases ask with
  | haul p s =>
    rw [begin_of_pending (r := (Ask.haul p s).routine) rfl pending]
    exact .done ..
  | advance =>
    rw [begin_of_pending (r := Ask.advance.routine) rfl pending]
    exact .done ..

/-- What is asked for comes to one end, if no action of the kind is in flight. -/
theorem exists_ends {s : Ledger.Setup} {es : List Ledger.Event}
    (reached : l = (Ledger.fresh s).run es) (named : ∀ q ∈ s.roster, q.address ≠ "")
    (tune : c.InTune l signer) (idle : c.actions.isPending ask.kind = false)
    (new : ∀ call hash, (c.signed ask.kind ask.participant ask.amount).call = .ok call →
      call.txHash = .ok hash → hash ∉ l.known) :
    (∃ l' c' o, Alone l (c.begin ask.routine) l' c' o) ∧
      ∀ l' c' o, Alone l (c.begin ask.routine) l' c' o → ask.Ends l c l' c' o := by
  obtain ⟨l₁, c₁, o₁, halone, hends⟩ : ∃ l' c' o,
      Alone l (c.begin ask.routine) l' c' o ∧ ask.Ends l c l' c' o := by
    by_cases granted : ask.Granted l c
    · exact ends_of_granted reached named tune idle new granted
    · exact ⟨l, ends_of_refused tune idle granted⟩
  refine ⟨⟨l₁, c₁, o₁, halone⟩, fun l' c' o h => ?_⟩
  obtain ⟨rfl, rfl, rfl⟩ := halone.unique h
  exact hends

/-- **An action from end to end**: a client that is in tune with a ledger and alone with it comes to
an end with every haul and every new round that it is asked for, as long as the hash of what it
would sign is new. It succeeds exactly if what is asked for can be done; then that has been done and
nothing else, and otherwise nothing has changed. While an action of the kind is in flight, a second
one is refused. -/
theorem ends_alone {s : Ledger.Setup} {l₀ : Ledger} (founded : Ledger.found s = .ok l₀)
    (es : List Ledger.Event) (named : ∀ q ∈ s.roster, q.address ≠ "")
    (tune : c.InTune (l₀.run es) signer) (ask : Ask)
    (new : ∀ call hash, (c.signed ask.kind ask.participant ask.amount).call = .ok call →
      call.txHash = .ok hash → hash ∉ (l₀.run es).known) :
    (∃ l' c' o, Alone (l₀.run es) (c.begin ask.routine) l' c' o) ∧
      ∀ l' c' o, Alone (l₀.run es) (c.begin ask.routine) l' c' o →
        (c.actions.isPending ask.kind = false → ask.Ends (l₀.run es) c l' c' o) ∧
          (c.actions.isPending ask.kind = true →
            l' = l₀.run es ∧ c' = c ∧ o = .error (Actions.inProgress ask.kind)) := by
  obtain ⟨-, rfl⟩ := Ledger.found_eq_ok_iff.1 founded
  cases idle : c.actions.isPending ask.kind with
  | true =>
    have halone := alone_of_pending ((Ledger.fresh s).run es) idle
    exact ⟨⟨_, _, _, halone⟩, fun l' c' o h => ⟨nofun, fun _ => halone.unique h⟩⟩
  | false =>
    obtain ⟨hruns, hends⟩ := exists_ends rfl named tune idle new
    exact ⟨hruns, fun l' c' o h => ⟨fun _ => hends l' c' o h, nofun⟩⟩

/-! ## A haul for Anne -/

/-- A ledger for two, on which one operator acts and signatures are checked. -/
def cove : Ledger.Setup where
  roster := [⟨"A", "Anne"⟩, ⟨"B", "Bart"⟩]
  operators := ["seed:ops"]
  contractAddress := "0xc0fe"
  blockTime := none
  finalityTimeout := .whole 60
  verifySignatures := true
  render _ := .ok []

/-- The operator. -/
def skipper : Signer := ⟨⟨"seed:ops"⟩, "0xc0fe"⟩

/-- A client of the operator that has read the round. -/
def aboard : Client :=
  let c := Client.bare (some skipper) 0 ⟨2024, 1, 2, 3, 4, 5, 0, some 0⟩
  { c with sync := { c.sync with snapshot := some ⟨0, cove.roster⟩ } }

/-- A haul for Anne is reported from end to end, and it can be done. -/
theorem ends_alone_aboard : Ledger.found cove = .ok (.fresh cove) ∧
    (Ask.haul "A" "2.5").Granted (.fresh cove) aboard ∧
      (∃ l' c' o, Alone (.fresh cove) (aboard.begin (Ask.haul "A" "2.5").routine) l' c' o) ∧
        ∀ l' c' o, Alone (.fresh cove) (aboard.begin (Ask.haul "A" "2.5").routine) l' c' o →
          (Ask.haul "A" "2.5").Ends (.fresh cove) aboard l' c' o := by
  have founded : Ledger.found cove = .ok (.fresh cove) :=
    Ledger.found_eq_ok_iff.2 ⟨by decide, rfl⟩
  have genuine : skipper.Genuine :=
    if_pos (List.any_eq_true.2 ⟨"seed:", by simp, String.startsWith_string_iff.2 (by decide)⟩)
  have tune : aboard.InTune (.fresh cove) skipper :=
    ⟨rfl, rfl, rfl, genuine, .inr (by decide), .inr (.inr rfl), rfl⟩
  have granted : (Ask.haul "A" "2.5").Granted (.fresh cove) aboard :=
    ⟨by decide, 2500000000000000000, by decide,
      Wire.short_of_lt (k := 19) (by decide) (by decide) (by decide)⟩
  obtain ⟨hruns, hends⟩ := ends_alone founded [] (by decide) tune (.haul "A" "2.5")
    (by simp [Ledger.fresh])
  exact ⟨founded, granted, hruns, fun l' c' o h => (hends l' c' o h).1 rfl⟩

/-! ## One action after the other -/

/-- Nothing of either kind is in flight after an action, if nothing was before. -/
theorem idle_of_ends {o : Outcome} (h : ask.Ends l c l' c' o)
    (idle : ∀ kind, c.actions.isPending kind = false) (kind : ActionKind) :
    c'.actions.isPending kind = false := by
  obtain ⟨r, hbecomes⟩ : ∃ r, c.actions.Becomes ask.kind r false c'.actions := by
    rcases h.settled with ⟨hash, -, hb⟩ | ⟨f, reason, -, -, hb⟩
    · exact ⟨_, hb⟩
    · exact ⟨_, hb⟩
  by_cases hkind : kind = ask.kind
  · rw [hkind]
    exact hbecomes.pending_eq
  · rw [(hbecomes.others kind hkind).2]
    exact idle kind

/-- **One action after the other**: a client that is in tune with a ledger and idle is so after
everything that it is asked for. -/
theorem inTune_asked {s : Ledger.Setup} {es : List Ledger.Event}
    (named : ∀ q ∈ s.roster, q.address ≠ "") {asks : List Ask} (asked : Asked l c asks l' c')
    (reached : l = (Ledger.fresh s).run es) (tune : c.InTune l signer)
    (idle : ∀ kind, c.actions.isPending kind = false) :
    c'.InTune l' signer ∧ ∀ kind, c'.actions.isPending kind = false := by
  induction asked generalizing es with
  | nil => exact ⟨tune, idle⟩
  | cons new goes _ ih =>
    have hends := (exists_ends reached named tune (idle _) new).2 _ _ _ goes
    -- The action has left a later state of the same ledger.
    obtain ⟨fs, hrun⟩ := goes.run
    rw [reached, ← Ledger.run_append] at hrun
    exact ih hrun (hends.tuned signer tune) (idle_of_ends hends idle)

end Client
end Plunder
