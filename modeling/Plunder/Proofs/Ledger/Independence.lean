import Plunder.Proofs.Ledger.Atomicity

/-!
# Hauls that do not concern each other

Two reports for different participants do not get in each other's way: neither looks at what the
other changes. In a batch of such reports each one is judged as it would be alone, and what they add
up to does not depend on their order.

Main statements:
- `judge_settle`: a report is judged as before when one for another participant has been settled
- `Batch.judged_at_start`: in a batch of independent reports everyone is judged as at its start
- `Batch.tallied`: what a batch of reports adds up to
- `produceBlock_perm`: the order of independent reports makes no difference
-/

namespace Plunder.Ledger

/-! ## Definitions -/

/-- Whether some calls are reports for participants who are all different. -/
structure Independent (cs : List LedgerCall) : Prop where
  reports : ∀ c ∈ cs, c.isReport = true
  named : ∀ c ∈ cs, c.participant?.isSome = true
  apart : (cs.map LedgerCall.participant?).Nodup

/-- The ledger with these transactions, and no others, in front of the next block. -/
def waiting (l : Ledger) (txs : List Queued) : Ledger := { l with mempool := txs }

/-- The rule that a call breaks, if it breaks one. -/
def broken? (l : Ledger) (c : LedgerCall) : Option Revert :=
  match l.judge c with
  | .ok (.error r) => some r
  | _ => none

/-- The transaction as it comes to its turn in a ledger, if the rules have a verdict on it. -/
def turn? (l : Ledger) (tx : Queued) : Option Applied :=
  match l.judge tx.signed.call with
  | .ok v => some ⟨tx, v, l.block⟩
  | .error _ => none

/-- Who is credited by a transaction, if anyone is. -/
def Applied.reporter? (d : Applied) : Option String :=
  match d.verdict with
  | .ok (.credit a _) => some a
  | _ => none

/-- What a transaction adds to the total of an address. -/
def Applied.gain (d : Applied) (b : String) : Nat :=
  match d.verdict with
  | .ok (.credit a n) => if b = a then n else 0
  | _ => 0

/-- Whether a ledger has come out of another by what some transactions add up to. -/
structure Tallied (l : Ledger) (ds : List Applied) (l' : Ledger) : Prop where
  round_eq : l'.round = l.round
  reported_eq : l'.reported = l.reported ++ ds.filterMap Applied.reporter?
  totals_eq : l'.totals = l.totals.map fun t => (t.1, t.2 + (ds.map (·.gain t.1)).sum)

/-- Whether two blocks make the same of the same transactions, which waited in two orders. -/
structure SameOutcome (l : Ledger) (txs txs' : List Queued) (p p' : Production) : Prop where
  /-- Both blocks come to their end. -/
  ends : p.fault = none
  ends' : p'.fault = none
  round_eq : p.ledger.round = p'.ledger.round
  reported_perm : p.ledger.reported.Perm p'.ledger.reported
  totals_eq : p.ledger.totals = p'.ledger.totals
  /-- Every transaction has one receipt, whatever the order. -/
  receipts : ∃ answer : Queued → TransactionReceipt,
    p.ledger.receipts = l.receipts ++ txs.map (fun tx => (tx.txHash, answer tx)) ∧
      p'.ledger.receipts = l.receipts ++ txs'.map (fun tx => (tx.txHash, answer tx))

/-! ## Two reports -/

variable {l l' : Ledger}

/-- Of the state of the round a report looks at nothing but who is on the roster, and whether its
participant has reported. -/
theorem judgeHaul_congr {ps : Fields} (totals : ∀ a, (l'.total? a).isSome = (l.total? a).isSome)
    (reported : ∀ a, param ps "participant" = .text a → (a ∈ l'.reported ↔ a ∈ l.reported)) :
    l'.judgeHaul ps = l.judgeHaul ps := by
  have hparticipant : l'.participantOf (param ps "participant") =
      l.participantOf (param ps "participant") := by
    simp only [participantOf, totals]
  rw [judgeHaul_eq, judgeHaul_eq, hparticipant]
  cases hp : l.participantOf (param ps "participant") with
  | error f => rfl
  | ok v =>
    cases v with
    | error r => rfl
    | ok a => simp only [reported a (participantOf_eq_ok_iff.1 hp).1]

/-- A report credits its participant, or no one. -/
theorem participant?_of_reporter? {d : Applied} {a : String}
    (judged : l.judge d.call = .ok d.verdict) (h : d.reporter? = some a) :
    d.call.participant? = some a := by
  obtain ⟨tx, v, b⟩ := d
  rcases v with r | ⟨a', n⟩ | _
  · cases h
  · obtain rfl : a' = a := Option.some.inj h
    obtain ⟨-, hreport, -⟩ := judge_eq_credit_iff.1 judged
    exact (isReportOf_eq_true_iff.1 hreport).2
  · cases h

/-- What a report does to the state: it may credit its participant, and that is all. -/
theorem tallied_settle {d : Applied} (judged : l.judge d.call = .ok d.verdict)
    (report : d.call.isReport = true) : Tallied l [d] (l.settle d) := by
  obtain ⟨tx, v, b⟩ := d
  rcases v with r | ⟨a, n⟩ | _
  · -- A report that is reverted adds nothing to any total.
    refine ⟨rfl, (List.append_nil _).symm, ?_⟩
    show l.totals = l.totals.map fun t => (t.1, t.2)
    rw [List.map_id']
  · refine ⟨rfl, rfl, ?_⟩
    show creditTotals a n l.totals = _
    rw [creditTotals]
    apply List.map_congr_left
    intro t _
    by_cases ht : t.1 = a <;> simp [Applied.gain, ht]
  · -- A report does not ask for the next round.
    obtain ⟨-, hadvance, -⟩ := judge_eq_advance_iff.1 judged
    rw [LedgerCall.isReport, beq_iff_eq] at report
    rw [LedgerCall.isAdvance, report] at hadvance
    cases hadvance

/-- **A report is judged as before** when one for another participant has been settled. -/
theorem judge_settle {d : Applied} {c : LedgerCall} (judged : l.judge d.call = .ok d.verdict)
    (report : d.call.isReport = true) (report' : c.isReport = true)
    (apart : c.participant? ≠ d.call.participant?) : (l.settle d).judge c = l.judge c := by
  have hact : (l.settle d).mayAct c.signer = l.mayAct c.signer := by
    rw [mayAct, settle_setup, mayAct]
  have htally := tallied_settle judged report
  have htotals (a : String) : ((l.settle d).total? a).isSome = (l.total? a).isSome := by
    rw [Bool.eq_iff_iff, total?_isSome_iff, total?_isSome_iff, htally.totals_eq, List.map_map]
    rfl
  rw [judge_of_report report', judge_of_report report', hact]
  congr 1
  apply judgeHaul_congr htotals
  intro a ha
  -- The participant of the one is not the one whom the other credits.
  rw [htally.reported_eq, List.mem_append, or_iff_left]
  intro hmem
  obtain ⟨d', hd', hcredited⟩ := List.mem_filterMap.1 hmem
  obtain rfl := List.mem_singleton.1 hd'
  apply apart
  rw [participant?_of_reporter? judged hcredited, LedgerCall.participant?, ha]
  rfl

/-! ## A batch of reports -/

theorem Tallied.cons {d : Applied} {ds : List Applied} {l₁ : Ledger} (h : Tallied l [d] l₁)
    (h' : Tallied l₁ ds l') : Tallied l (d :: ds) l' where
  round_eq := h'.round_eq.trans h.round_eq
  reported_eq := by
    rw [h'.reported_eq, h.reported_eq, List.append_assoc, ← List.filterMap_append]
    rfl
  totals_eq := by
    rw [h'.totals_eq, h.totals_eq, List.map_map]
    apply List.map_congr_left
    intro t _
    simp [Nat.add_assoc]

/-- **What a batch of reports adds up to.** -/
theorem Batch.tallied {ds : List Applied} (h : Batch l ds l')
    (reports : ∀ d ∈ ds, d.call.isReport = true) : Tallied l ds l' := by
  induction h with
  | nil l => exact ⟨rfl, by simp, by simp⟩
  | @cons l l' d ds judged _ _ ih =>
    have hhead := tallied_settle judged (reports d List.mem_cons_self)
    exact hhead.cons (ih fun d' hd' => reports d' (List.mem_cons_of_mem d hd'))

/-- In what order transactions are added up makes no difference but to the order of the reports. -/
theorem Tallied.perm {ds ds' : List Applied} {l₁ l₂ : Ledger} (h : Tallied l ds l₁)
    (h' : Tallied l ds' l₂) (perm : ds.Perm ds') :
    l₁.round = l₂.round ∧ l₁.reported.Perm l₂.reported ∧ l₁.totals = l₂.totals := by
  refine ⟨h.round_eq.trans h'.round_eq.symm, ?_, ?_⟩
  · rw [h.reported_eq, h'.reported_eq]
    exact (perm.filterMap _).append_left _
  · rw [h.totals_eq, h'.totals_eq]
    apply List.map_congr_left
    intro t _
    rw [(perm.map _).sum_nat]

theorem Independent.tail {c : LedgerCall} {cs : List LedgerCall} (h : Independent (c :: cs)) :
    Independent cs where
  reports := fun c' hc' => h.reports c' (List.mem_cons_of_mem c hc')
  named := fun c' hc' => h.named c' (List.mem_cons_of_mem c hc')
  apart := (List.nodup_cons.1 h.apart).2

theorem Independent.perm {cs cs' : List LedgerCall} (h : Independent cs) (perm : cs.Perm cs') :
    Independent cs' where
  reports := fun c hc => h.reports c (perm.mem_iff.2 hc)
  named := fun c hc => h.named c (perm.mem_iff.2 hc)
  apart := (perm.map _).nodup_iff.1 h.apart

/-- **In a batch of independent reports everyone is judged as at its start.** -/
theorem Batch.judged_at_start {ds : List Applied} (h : Batch l ds l')
    (independent : Independent (ds.map Applied.call)) :
    ∀ d ∈ ds, l.judge d.call = .ok d.verdict := by
  induction h with
  | nil l => exact fun d hd => nomatch hd
  | @cons l l' d ds judged _ _ ih =>
    intro d' hd'
    rcases List.mem_cons.1 hd' with rfl | hmem
    · exact judged
    · -- The first report does not concern the others, so it might as well not have been there.
      have hcall : d'.call ∈ ds.map Applied.call := List.mem_map_of_mem hmem
      have hapart : d'.call.participant? ≠ d.call.participant? := by
        intro heq
        apply (List.nodup_cons.1 independent.apart).1
        rw [← heq]
        exact List.mem_map_of_mem hcall
      rw [← judge_settle judged (independent.reports _ List.mem_cons_self)
        (independent.tail.reports _ hcall) hapart]
      exact ih independent.tail d' hmem

/-- What comes to its turn in a batch of independent reports is told by the transactions alone. -/
theorem Batch.turns {ds : List Applied} (h : Batch l ds l')
    (independent : Independent (ds.map Applied.call)) :
    (ds.map Applied.tx).filterMap l.turn? = ds := by
  have hturn : ∀ d ∈ ds, (l.turn? ∘ Applied.tx) d = some d := by
    intro d hd
    have hjudged : l.judge d.tx.signed.call = .ok d.verdict := h.judged_at_start independent d hd
    rw [Function.comp_apply, turn?, hjudged, ← h.block_of_mem d hd]
  rw [List.filterMap_map, List.filterMap_congr hturn, List.filterMap_some]

/-- The receipts of a batch of independent reports are those that each would get alone. -/
theorem Batch.receipts_of_independent {ds : List Applied} (h : Batch l ds l')
    (independent : Independent (ds.map Applied.call)) :
    l'.receipts = l.receipts ++ (ds.map Applied.tx).map fun tx =>
      (tx.txHash, l.receiptOf tx.txHash (l.broken? tx.signed.call)) := by
  rw [h.receipts_eq, List.map_map]
  congr 1
  apply List.map_congr_left
  intro d hd
  have hjudged : l.judge d.tx.signed.call = .ok d.verdict := h.judged_at_start independent d hd
  have hblock := h.block_of_mem d hd
  rw [Function.comp_apply, broken?, hjudged, Applied.entry, Applied.receipt, hblock]
  cases d.verdict <;> rfl

/-! ## A block of reports -/

/-- A block that comes to its end applies all the transactions that waited. -/
theorem exists_batch_of_ends {txs : List Queued}
    (ends : (l.waiting txs).produceBlock.fault = none) :
    ∃ ds, ds.map Applied.tx = txs ∧
      Batch (l.waiting txs).opened ds (l.waiting txs).produceBlock.ledger := by
  obtain ⟨ds, lost, hm, hb, -, hn, -⟩ := produceBlock_spec (l.waiting txs)
  obtain rfl := hn.1 ends
  exact ⟨ds, by rw [← List.append_nil (ds.map Applied.tx)]; exact hm.symm, hb⟩

/-- **The order of independent reports makes no difference**: every permutation of a batch for
different participants yields the same round, reports and totals, and every transaction has the same
receipt. -/
theorem produceBlock_perm {txs txs' : List Queued}
    (independent : Independent (txs.map (·.signed.call))) (perm : txs.Perm txs')
    (ends : (l.waiting txs).produceBlock.fault = none) :
    SameOutcome l txs txs' (l.waiting txs).produceBlock (l.waiting txs').produceBlock := by
  have ends' : (l.waiting txs').produceBlock.fault = none := by
    -- Whether a call disrupts the ledger does not depend on what waits with it.
    rw [produceBlock_fault_eq_none_iff] at ends ⊢
    have hsetup : (l.waiting txs').setup = (l.waiting txs).setup := rfl
    intro tx htx
    rw [disrupts_congr hsetup]
    exact ends tx (perm.mem_iff.2 htx)
  obtain ⟨ds, rfl, hb⟩ := exists_batch_of_ends ends
  obtain ⟨ds', rfl, hb'⟩ := exists_batch_of_ends ends'
  have hcalls (es : List Applied) : (es.map Applied.tx).map (·.signed.call) = es.map Applied.call :=
    List.map_map
  have hind : Independent (ds.map Applied.call) := hcalls ds ▸ independent
  have hind' : Independent (ds'.map Applied.call) := by
    rw [← hcalls] at hind ⊢
    exact hind.perm (perm.map _)
  -- Both batches start from the same state, in which the transactions already tell their verdicts.
  have hperm : ds.Perm ds' := by
    rw [← hb.turns hind, ← hb'.turns hind']
    exact perm.filterMap _
  have htally := hb.tallied fun d hd => hind.reports _ (List.mem_map_of_mem hd)
  have htally' := hb'.tallied fun d hd => hind'.reports _ (List.mem_map_of_mem hd)
  obtain ⟨hround, hreported, htotals⟩ := htally.perm htally' hperm
  exact ⟨ends, ends', hround, hreported, htotals, _, hb.receipts_of_independent hind,
    hb'.receipts_of_independent hind'⟩

/-- A haul that is credited, and one that is reverted. -/
def duoHauls : List Queued :=
  [duoHaul "0x01" "A" (.text "12"), duoHaul "0x02" "B" (.text "a dozen")]

/-- The two hauls in either order. -/
theorem produceBlock_perm_duoHauls : SameOutcome (fresh duo) duoHauls duoHauls.reverse
    ((fresh duo).waiting duoHauls).produceBlock
    ((fresh duo).waiting duoHauls.reverse).produceBlock := by
  apply produceBlock_perm
  case independent => exact ⟨by decide, by decide, by decide⟩
  case perm => exact (List.reverse_perm duoHauls).symm
  case ends =>
    rw [produceBlock_fault_eq_none_iff]
    have hcalm (hash participant amount : String) : ¬ ((fresh duo).waiting duoHauls).Disrupts
        (duoHaul hash participant (.text amount)).signed.call :=
      not_disrupts_of_texts ⟨[("participant", participant), ("amount", amount)], by simp, rfl⟩
    exact List.forall_mem_cons.2 ⟨hcalm _ _ _, List.forall_mem_singleton.2 (hcalm _ _ _)⟩

end Plunder.Ledger
