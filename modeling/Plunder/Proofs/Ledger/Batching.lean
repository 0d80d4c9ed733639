import Plunder.Proofs.Ledger.Finality
import Plunder.Proofs.Ledger.Production
import Plunder.Proofs.Ledger.Submission

/-!
# Where the blocks lie

Between the same submissions blocks can be made at any time, or at once with each of them. Whether a
submission is accepted depends on what was accepted before, not on what is in a block already; and
what the accepted transactions do depends on their order, which the blocks keep. So where the blocks
lie makes no difference once everything is in one, but for the numbers of the blocks.

Main statements:
- `accepted_eq_submissions`, `answers_eq_promises`: submissions do not hear of the blocks between
  them
- `calm_iff`: a run is calm if nothing that it accepts disrupts the ledger
- `boundaries_immaterial`: two runs with the same submissions
-/

namespace Plunder.Ledger

/-! ## Definitions -/

/-- The same configuration with another time between two blocks. -/
def Setup.timed (s : Setup) (t : Option Duration) : Setup := { s with blockTime := t }

/-- The ledger with another time between two blocks. -/
def timed (l : Ledger) (t : Option Duration) : Ledger := { l with setup := l.setup.timed t }

/-- The call that an event submits. -/
def Event.call? : Event → Option SignedCall
  | .submit s => some s
  | .produce => none

/-- The calls that are submitted in a run, in order. -/
def submissions (es : List Event) : List SignedCall := es.filterMap Event.call?

/-- What the submitters are told in a run, in order. -/
def answers : Ledger → List Event → List (Except Fault TransactionHandle)
  | _, [] => []
  | l, .submit s :: es => (l.submit s).outcome :: answers (l.step (.submit s)) es
  | l, .produce :: es => answers (l.step .produce) es

/-- What a submitter is told where the next block comes later. -/
def promise (l : Ledger) (s : SignedCall) : Except Fault TransactionHandle :=
  (l.accept s).map (⟨·, s.call.method⟩)

/-- What submitters are told in order where every block comes later. -/
def promises : Ledger → List SignedCall → List (Except Fault TransactionHandle)
  | _, [] => []
  | l, s :: ss => l.promise s :: promises (l.step (.submit s)) ss

/-- What a receipt says, apart from the number of the block. -/
def verdict? (l : Ledger) (hash : String) : Option (ReceiptStatus × String) :=
  (l.receipt? hash).map fun r => (r.status, r.reason)

/-- Whether two ledgers differ in nothing that submissions look at. -/
structure Akin (l m : Ledger) : Prop where
  contract : l.setup.contractAddress = m.setup.contractAddress
  checks : l.setup.verifySignatures = m.setup.verifySignatures
  known : l.known = m.known

/-- Whether two runs differ in the numbers of the blocks at most: the submitters are told the same,
the ledgers are left in the same state, and the receipts of every transaction say the same. -/
structure Matches (l : Ledger) (es : List Event) (l' : Ledger) (es' : List Event) : Prop where
  answers : l.answers es = l'.answers es'
  accepted : l.accepted es = l'.accepted es'
  known : (l.run es).known = (l'.run es').known
  round : (l.run es).round = (l'.run es').round
  reported : (l.run es).reported = (l'.run es').reported
  totals : (l.run es).totals = (l'.run es').totals
  verdicts : (l.run es).verdicts = (l'.run es').verdicts
  /-- Every accepted transaction has a receipt in both. -/
  receipts : ∀ tx ∈ l.accepted es, ∃ v, (l.run es).verdict? tx.txHash = some v ∧
    (l'.run es').verdict? tx.txHash = some v

/-! ## The time between two blocks -/

section Timed

variable (l : Ledger) (t : Option Duration)

theorem settle_timed (d : Applied) : (l.timed t).settle d = (l.settle d).timed t := by
  unfold settle enact
  rcases d.verdict with r | e
  · rfl
  · cases e <;> rfl

theorem batch_timed {l l' : Ledger} {ds : List Applied} (h : Batch l ds l') :
    Batch (l.timed t) ds (l'.timed t) := by
  induction h with
  | nil l => exact .nil _
  | cons judged dated _ ih =>
    -- The rules do not look at the time between two blocks.
    exact .cons judged dated (by rwa [settle_timed])

theorem applyAll_timed (txs : List Queued) (calm : (l.applyAll txs).fault = none) :
    ((l.timed t).applyAll txs).ledger = (l.applyAll txs).ledger.timed t := by
  obtain ⟨ds, lost, rfl, hbatch, -, hlost, -⟩ := applyAll_spec l txs
  obtain rfl := hlost.1 calm
  rw [List.append_nil] at hbatch ⊢
  exact (batch_timed t hbatch).applyAll_eq.1

end Timed

/-! ## Submissions -/

namespace Akin

variable {l m : Ledger}

theorem refl (l : Ledger) : Akin l l := ⟨rfl, rfl, rfl⟩

/-- Both accept the same calls, under the same hashes. -/
theorem accept_eq (h : Akin l m) (s : SignedCall) : l.accept s = m.accept s := by
  simp only [accept, isForeign, h.contract, h.checks, h.known]

theorem enqueue (h : Akin l m) (hash : String) (s s' : SignedCall) :
    Akin (l.enqueue hash s) (m.enqueue hash s') :=
  ⟨h.contract, h.checks, congrArg (· ++ [hash]) h.known⟩

/-- A block does not show. -/
theorem produce (h : Akin l m) : Akin l.produceBlock.ledger m := by
  obtain ⟨hsetup, hknown, -⟩ := produceBlock_frame l
  exact ⟨hsetup ▸ h.contract, hsetup ▸ h.checks, hknown.trans h.known⟩

theorem trans {k : Ledger} (h : Akin l m) (h' : Akin m k) : Akin l k :=
  ⟨h.contract.trans h'.contract, h.checks.trans h'.checks, h.known.trans h'.known⟩

theorem symm (h : Akin l m) : Akin m l := ⟨h.contract.symm, h.checks.symm, h.known.symm⟩

/-- An accepted call is known, whether it waits for a block or gets one at once. -/
theorem of_accepted {s : SignedCall} {hash : String} (fits : l.accept s = .ok hash) :
    Akin (l.step (.submit s)) (l.enqueue hash s) := by
  cases ht : l.setup.blockTime with
  | some d =>
    rw [step, (submit_of_queued fits ht).1]
    exact refl _
  | none =>
    rw [step, submit_of_immediate fits ht]
    exact (refl _).produce

/-- **Every event leaves akin what was akin before it.** -/
theorem step (h : Akin l m) (e : Event) : Akin (l.step e) (m.step e) := by
  cases e with
  | produce => exact h.produce.symm.produce.symm
  | submit s =>
    cases ha : l.accept s with
    | error f =>
      rw [Ledger.step, Ledger.step, (submit_of_rejected ha).1,
        (submit_of_rejected ((h.accept_eq s).symm.trans ha)).1]
      exact h
    | ok hash =>
      have hm := of_accepted ((h.accept_eq s).symm.trans ha)
      exact (of_accepted ha).trans ((h.enqueue hash s s).trans hm.symm)

theorem admitted_eq (h : Akin l m) (e : Event) : l.admitted e = m.admitted e := by
  cases e with
  | produce => rfl
  | submit s => simp only [admitted, h.accept_eq]

/-- The same is accepted of both, in a whole run. -/
theorem accepted_eq (h : Akin l m) (es : List Event) : l.accepted es = m.accepted es := by
  induction es generalizing l m with
  | nil => rfl
  | cons e es ih => rw [accepted, accepted, h.admitted_eq, ih (h.step e)]

theorem promises_eq (h : Akin l m) (ss : List SignedCall) : l.promises ss = m.promises ss := by
  induction ss generalizing l m with
  | nil => rfl
  | cons s ss ih => rw [promises, promises, promise, promise, h.accept_eq, ih (h.step _)]

end Akin

@[simp] theorem submissions_submit (s : SignedCall) (es : List Event) :
    submissions (.submit s :: es) = s :: submissions es := rfl

@[simp] theorem submissions_produce (es : List Event) :
    submissions (.produce :: es) = submissions es := rfl

/-- **What is accepted in a run does not depend on its blocks.** -/
theorem accepted_eq_submissions (l : Ledger) (es : List Event) :
    l.accepted es = l.accepted ((submissions es).map .submit) := by
  induction es generalizing l with
  | nil => rfl
  | cons e es ih =>
    cases e with
    | submit s => rw [submissions_submit, List.map_cons, accepted, accepted, ih]
    | produce =>
      rw [submissions_produce, accepted, admitted, List.nil_append, ih]
      exact (Akin.refl l).produce.accepted_eq _

/-- What is submitted is told as much as if the next block came later, unless its block ends
early. -/
theorem outcome_eq_promise {l : Ledger} {s : SignedCall} (calm : l.stepFault (.submit s) = none) :
    (l.submit s).outcome = l.promise s := by
  cases ha : l.accept s with
  | error f => rw [(submit_of_rejected ha).2, promise, ha]; rfl
  | ok hash =>
    rw [promise, ha]
    cases ht : l.setup.blockTime with
    | some d => exact (submit_of_queued ha ht).2
    | none =>
      simp only [stepFault, ha, ht] at calm
      simp only [submit, ha, ht, calm]
      rfl

/-- **What submitters are told in a calm run does not depend on its blocks.** -/
theorem answers_eq_promises {l : Ledger} {es : List Event} (calm : l.Calm es) :
    l.answers es = l.promises (submissions es) := by
  induction es generalizing l with
  | nil => rfl
  | cons e es ih =>
    cases e with
    | submit s =>
      rw [submissions_submit, answers, promises, outcome_eq_promise calm.1, ih calm.2]
    | produce =>
      rw [submissions_produce, answers, ih calm.2]
      exact (Akin.refl l).produce.promises_eq _

/-- What is accepted in a run has been submitted in it. -/
theorem signed_mem_submissions {l : Ledger} {es : List Event} {tx : Queued}
    (h : tx ∈ l.accepted es) : tx.signed ∈ submissions es := by
  induction es generalizing l with
  | nil => cases h
  | cons e es ih =>
    rw [accepted, List.mem_append] at h
    cases e with
    | produce => exact ih (h.resolve_left List.not_mem_nil)
    | submit s =>
      rcases h with h | h
      · cases ha : l.accept s with
        | error f => simp [admitted, ha] at h
        | ok hash =>
          have htx : tx = ⟨hash, s⟩ := by simpa [admitted, ha] using h
          rw [htx]
          exact List.mem_cons_self
      · exact List.mem_cons_of_mem _ (ih h)

/-! ## Calm runs -/

/-- No transaction that came to its turn disrupts the ledger. -/
theorem History.not_disrupts {l₀ l : Ledger} {acc lost : List Queued} {ds : List Applied}
    (h : History l₀ l acc ds lost) : ∀ d ∈ ds, ¬l₀.Disrupts d.call := by
  induction h with
  | start => exact nofun
  | enqueue _ _ ih => exact ih
  | block before taken made ih =>
    intro d hd
    rcases List.mem_append.1 hd with hd | hd
    · exact ih d hd
    · rw [← disrupts_congr before.setup_eq]
      exact made.not_disrupts d hd

/-- A run is calm if nothing that waits at its beginning or is accepted in it disrupts the
ledger. -/
theorem calm_of_not_disrupts {l : Ledger} {es : List Event}
    (waiting : ∀ tx ∈ l.mempool, ¬l.Disrupts tx.signed.call)
    (incoming : ∀ tx ∈ l.accepted es, ¬l.Disrupts tx.signed.call) : l.Calm es := by
  induction es generalizing l with
  | nil => trivial
  | cons e es ih =>
    rw [accepted, List.forall_mem_append] at incoming
    obtain ⟨hnow, hlater⟩ := incoming
    have hlater' : ∀ tx ∈ (l.step e).accepted es, ¬(l.step e).Disrupts tx.signed.call :=
      fun tx htx => (disrupts_congr (step_setup l e) _).not.2 (hlater tx htx)
    rcases step_cases l e with ⟨-, hs, hf⟩ | ⟨s, hash, -, ha, hs, hf⟩ | ⟨-, hs, hf⟩ |
      ⟨s, hash, -, ha, hs, hf⟩
    · refine ⟨hf, ih ?_ hlater'⟩
      rw [hs]
      exact waiting
    · refine ⟨hf, ih ?_ hlater'⟩
      rw [ha] at hnow
      rw [hs]
      exact List.forall_mem_append.2 ⟨waiting, hnow⟩
    · -- A block leaves nothing that waits.
      refine ⟨hf.trans (produceBlock_fault_eq_none_iff.2 waiting), ih ?_ hlater'⟩
      rw [hs, mempool_produceBlock]
      exact List.forall_mem_nil _
    · rw [ha] at hnow
      refine ⟨hf.trans (produceBlock_fault_eq_none_iff.2 ?_), ih ?_ hlater'⟩
      · exact List.forall_mem_append.2 ⟨waiting, hnow⟩
      · rw [hs, mempool_produceBlock]
        exact List.forall_mem_nil _

/-- **When a run is calm** at whose end nothing waits: exactly if it accepts nothing that disrupts
the ledger. -/
theorem calm_iff {s : Setup} {es : List Event} (mined : ((fresh s).run es).mempool = []) :
    (fresh s).Calm es ↔ ∀ tx ∈ (fresh s).accepted es, ¬(fresh s).Disrupts tx.signed.call := by
  constructor
  · intro calm tx htx
    obtain ⟨ds, lost, h, hlost⟩ := exists_history (fresh s) es
    rw [h.filed.in_order (hlost calm), mined, List.append_nil] at htx
    obtain ⟨d, hd, rfl⟩ := List.mem_map.1 htx
    exact h.not_disrupts d hd
  · exact calm_of_not_disrupts nofun

/-- The state at the end of a calm run at whose end nothing waits: what the accepted transactions
make of a new ledger, one after the other. -/
theorem alike_of_mined {s : Setup} {es : List Event} (calm : (fresh s).Calm es)
    (mined : ((fresh s).run es).mempool = []) :
    ((fresh s).applyAll ((fresh s).accepted es)).fault = none ∧
      Alike ((fresh s).run es) ((fresh s).applyAll ((fresh s).accepted es)).ledger := by
  obtain ⟨applied, heq, hfault, halike⟩ := (orderly_of_calm calm).applied
  rw [mined, List.append_nil] at heq
  rw [heq]
  exact ⟨hfault, halike⟩

/-- What a receipt says is found among the verdicts. -/
theorem verdict?_eq (l : Ledger) (hash : String) :
    l.verdict? hash = (l.verdicts.find? (·.1 == hash)).map (·.2) := by
  rw [verdict?, receipt?, verdicts, List.find?_map, Option.map_map, Option.map_map]
  rfl

/-- Every transaction that a calm run accepts has a receipt, once nothing waits any more. -/
theorem exists_verdict {s : Setup} {es : List Event} (calm : (fresh s).Calm es)
    (mined : ((fresh s).run es).mempool = []) {tx : Queued} (htx : tx ∈ (fresh s).accepted es) :
    ∃ v, ((fresh s).run es).verdict? tx.txHash = some v := by
  obtain ⟨ds, lost, h, hlost⟩ := exists_history (fresh s) es
  rw [h.filed.in_order (hlost calm), mined, List.append_nil] at htx
  obtain ⟨d, hd, rfl⟩ := List.mem_map.1 htx
  exact ⟨_, by rw [verdict?, h.filed.receipt?_of_mem hd]; rfl⟩

/-! ## Two runs with the same submissions -/

/-- **Where the blocks lie makes no difference.** Two ledgers are founded that differ in the time
between two blocks at most, and the same is submitted to both, with blocks made in between at any
time. If one run is calm, and nothing waits at the end of either, then so is the other, and they
differ in the numbers of the blocks at most. -/
theorem boundaries_immaterial {s : Setup} {t : Option Duration} {l l' : Ledger}
    (founded : found s = .ok l) (founded' : found (s.timed t) = .ok l') {es es' : List Event}
    (same : submissions es = submissions es') (calm : l.Calm es)
    (mined : (l.run es).mempool = []) (mined' : (l'.run es').mempool = []) :
    l'.Calm es' ∧ Matches l es l' es' := by
  obtain ⟨-, rfl⟩ := found_eq_ok_iff.1 founded
  obtain ⟨-, rfl⟩ := found_eq_ok_iff.1 founded'
  have hakin : Akin (fresh s) (fresh (s.timed t)) := ⟨rfl, rfl, rfl⟩
  have haccepted : (fresh s).accepted es = (fresh (s.timed t)).accepted es' := by
    rw [accepted_eq_submissions, same, hakin.accepted_eq, ← accepted_eq_submissions]
  have hcalm : (fresh (s.timed t)).Calm es' := by
    rw [calm_iff mined', ← haccepted]
    exact (calm_iff mined).1 calm
  obtain ⟨hfault, halike⟩ := alike_of_mined calm mined
  obtain ⟨-, halike'⟩ := alike_of_mined hcalm mined'
  -- The accepted transactions do the same to both, whatever the time between two blocks.
  have htimed := applyAll_timed (fresh s) t _ hfault
  rw [← haccepted] at halike'
  change Alike _ (((fresh s).timed t).applyAll _).ledger at halike'
  rw [htimed] at halike'
  have hverdicts : ((fresh s).run es).verdicts = ((fresh (s.timed t)).run es').verdicts :=
    halike.verdicts.trans halike'.verdicts.symm
  refine ⟨hcalm, ?_, haccepted, ?_, ?_, ?_, ?_, hverdicts, ?_⟩
  · rw [answers_eq_promises calm, answers_eq_promises hcalm, same, hakin.promises_eq]
  · rw [known_run, known_run, haccepted]
  · exact halike.round.trans halike'.round.symm
  · exact halike.reported.trans halike'.reported.symm
  · exact halike.totals.trans halike'.totals.symm
  · intro tx htx
    obtain ⟨v, hv⟩ := exists_verdict calm mined htx
    exact ⟨v, hv, by rw [verdict?_eq, ← hverdicts, ← verdict?_eq, hv]⟩

/-- Two reports for one participant, of which the second comes too late. -/
def bothReports : List Event := [.submit (reportOf (.text "3")), .submit (reportOf (.text "4"))]

private theorem not_disrupts_bothReports {l : Ledger} {s : SignedCall}
    (h : s ∈ submissions bothReports) : ¬l.Disrupts s.call := by
  have htexts (amount : String) : (reportOf (.text amount)).call.HasTextParams :=
    ⟨[("amount", amount), ("participant", "A")], by simp, rfl⟩
  rcases List.mem_pair.1 h with rfl | rfl
  · exact not_disrupts_of_texts (htexts "3")
  · exact not_disrupts_of_texts (htexts "4")

/-- The two reports come into one block at the end, and into a block each. -/
theorem boundaries_immaterial_bothReports :
    ∃ l l', found unhurried = .ok l ∧ found (unhurried.timed none) = .ok l' ∧
      l.Calm (bothReports ++ [.produce]) ∧ (l.run (bothReports ++ [.produce])).mempool = [] ∧
        (l'.run bothReports).mempool = [] ∧ l'.Calm bothReports ∧
          Matches l (bothReports ++ [.produce]) l' bothReports := by
  have founded : found unhurried = .ok (fresh unhurried) := found_eq_ok_iff.2 ⟨by decide, rfl⟩
  have founded' : found (unhurried.timed none) = .ok (fresh (unhurried.timed none)) :=
    found_eq_ok_iff.2 ⟨by decide, rfl⟩
  have calm : (fresh unhurried).Calm (bothReports ++ [.produce]) :=
    calm_of_not_disrupts nofun fun tx htx => not_disrupts_bothReports (signed_mem_submissions htx)
  have mined : ((fresh unhurried).run (bothReports ++ [.produce])).mempool = [] := by
    rw [run_append]
    exact mempool_produceBlock _
  have mined' : ((fresh (unhurried.timed none)).run bothReports).mempool = [] :=
    mempool_run _ rfl bothReports
  have same : submissions (bothReports ++ [.produce]) = submissions bothReports := rfl
  have hmatches := boundaries_immaterial founded founded' same calm mined mined'
  exact ⟨_, _, founded, founded', calm, mined, mined', hmatches⟩

end Plunder.Ledger
