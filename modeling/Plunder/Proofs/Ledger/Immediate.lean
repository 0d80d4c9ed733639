import Plunder.Proofs.Ledger.Submission

/-!
# Blocks of a single transaction

Where blocks take no time, every accepted transaction gets one of its own, and is final before its
submitter has the handle. What the transaction does is then what the rules say of its call.

Main statements:
- `outstanding_effect_credit`, `outstanding_effect_advance`: who is outstanding after an effect
- `enacts_submit`: what comes of submitting a call that the rules let take effect
-/

namespace Plunder.Ledger

/-! ## Definitions -/

/-- Whether a ledger has come out of another by a transaction with some hash that took effect. -/
structure Enacts (l : Ledger) (hash : String) (e : Effect) (l' : Ledger) : Prop where
  setup_eq : l'.setup = l.setup
  round_eq : l'.round = (l.effect e).round
  reported_eq : l'.reported = (l.effect e).reported
  totals_eq : l'.totals = (l.effect e).totals
  known : hash ∈ l'.known
  receipt : ∃ r : TransactionReceipt, l'.receipt? hash = some r ∧ r.txHash = hash ∧
    r.confirmed = true

/-! ## Who may act, and where -/

variable {l l' : Ledger}

theorem mayAct_iff {signer : String} :
    l.mayAct signer = true ↔ l.setup.operators = [] ∨ signer ∈ l.setup.operators := by
  simp [mayAct]

theorem isForeign_eq_false_iff {contract : String} :
    l.isForeign contract = false ↔
      l.setup.contractAddress = "" ∨ contract = "" ∨ contract = l.setup.contractAddress := by
  simp only [isForeign, Bool.and_eq_false_iff, Bool.not_eq_false', String.isEmpty_iff,
    bne_eq_false_iff_eq, or_assoc]

/-! ## Effects -/

/-- Those are outstanding who are on the roster and have not reported. -/
theorem mem_outstanding_iff {p : Participant} :
    p ∈ l.outstanding ↔ p ∈ l.setup.roster ∧ p.address ∉ l.reported := by
  simp [outstanding]

/-- Of a credited haul nobody hears but its participant, who leaves those who are outstanding. -/
theorem outstanding_effect_credit (l : Ledger) (a : String) (n : Nat) :
    (l.effect (.credit a n)).outstanding = l.outstanding.filter (·.address ≠ a) := by
  simp only [outstanding, effect, List.filter_filter]
  apply List.filter_congr
  intro p _
  simp [Bool.and_comm]

/-- In a new round everyone on the roster is outstanding. -/
theorem outstanding_effect_advance (l : Ledger) :
    (l.effect .advance).outstanding = l.setup.roster := by
  simp [outstanding, effect]

theorem Enacts.outstanding_eq {hash : String} {e : Effect} (h : l.Enacts hash e l') :
    l'.outstanding = (l.effect e).outstanding := by
  rw [outstanding, h.setup_eq, h.reported_eq, outstanding, effect_setup]

theorem Enacts.total?_eq {hash : String} {e : Effect} (h : l.Enacts hash e l') (a : String) :
    l'.total? a = (l.effect e).total? a := by
  rw [total?, h.totals_eq, total?]

/-! ## A block of its own -/

theorem Batch.of_singleton {d : Applied} (h : Batch l [d] l') :
    l.judge d.call = .ok d.verdict ∧ l' = l.settle d := by
  cases h with
  | cons judged _ rest =>
    cases rest
    exact ⟨judged, rfl⟩

private theorem settle_of_effect (l : Ledger) (sc : SignedCall) {hash : String} {d : Applied}
    {e : Effect} (verdict : d.verdict = .ok e) :
    ((l.enqueue hash sc).opened.settle d).round = (l.effect e).round ∧
      ((l.enqueue hash sc).opened.settle d).reported = (l.effect e).reported ∧
        ((l.enqueue hash sc).opened.settle d).totals = (l.effect e).totals := by
  rw [settle, verdict]
  cases e <;> exact ⟨rfl, rfl, rfl⟩

/-- **A call that the rules let take effect** is submitted: it takes its effect at once, under its
hash and with a receipt that confirms it. -/
theorem enacts_submit {s : Setup} (immediate : s.blockTime = none) (es : List Event)
    {sc : SignedCall} {hash : String} {e : Effect}
    (fits : ((fresh s).run es).accept sc = .ok hash)
    (does : ((fresh s).run es).judge sc.call = .ok (.ok e)) :
    ((fresh s).run es).Enacts hash e (((fresh s).run es).submit sc).ledger ∧
      (((fresh s).run es).submit sc).outcome = .ok ⟨hash, sc.call.method⟩ := by
  have hsetup : ((fresh s).run es).setup.blockTime = none := by rw [run_setup]; exact immediate
  have hsubmit := submit_of_immediate fits hsetup
  obtain ⟨ds₀, lost₀, before, -⟩ := exists_history (fresh s) es
  obtain ⟨ds, lost, hm, hb, -, hn, hd⟩ := produceBlock_spec (((fresh s).run es).enqueue hash sc)
  have filed := ((before.enqueue fits).block hm hb).filed
  rw [enqueue_mempool, mempool_run s immediate es, List.nil_append] at hm
  cases ds with
  | nil =>
    -- The call would disrupt the ledger, and the rules would have nothing to say of it.
    obtain rfl : lost = [⟨hash, sc⟩] := hm.symm
    have hdisrupts : ((fresh s).run es).Disrupts sc.call :=
      (disrupts_congr (enqueue_setup ((fresh s).run es) hash sc) _).1 (hd _ rfl)
    obtain ⟨f, hf⟩ := judge_eq_fault_iff.2 hdisrupts
    rw [does] at hf
    cases hf
  | cons d ds =>
    obtain ⟨htx, hrest⟩ := List.cons.inj hm
    obtain ⟨hds, rfl⟩ := List.append_eq_nil_iff.1 hrest.symm
    obtain rfl := List.map_eq_nil_iff.1 hds
    obtain ⟨judged, hledger⟩ := hb.of_singleton
    have hverdict : d.verdict = .ok e := by
      -- That the transaction waits does not matter to the rules.
      have hjudge : ((fresh s).run es).judge d.call = .ok d.verdict := judged
      rw [Applied.call, ← htx, does] at hjudge
      exact (Except.ok.inj hjudge).symm
    have hreceipt := filed.receipt?_of_mem (List.mem_append_right _ List.mem_cons_self)
    rw [← htx] at hreceipt
    refine ⟨?_, by simp only [submit, fits, hsetup, hn.2 rfl]⟩
    rw [hsubmit]
    obtain ⟨hround, hreported, htotals⟩ := settle_of_effect ((fresh s).run es) sc hverdict
    constructor
    case setup_eq => rw [hledger, settle_setup, opened_setup, enqueue_setup]
    case round_eq => rw [hledger, hround]
    case reported_eq => rw [hledger, hreported]
    case totals_eq => rw [hledger, htotals]
    case known => rw [hledger, settle_known, opened_known, enqueue_known]; simp
    case receipt =>
      refine ⟨d.receipt, hreceipt, ?_, ?_⟩
      · rw [txHash_receipt, ← htx]
      · rw [confirmed_receipt, Applied.confirmed, hverdict]
        rfl

end Plunder.Ledger
