import Mathlib.Algebra.GroupWithZero.Nat
import Plunder.Proofs.Ledger.Run

/-!
# The accounts of a run

The round and the totals of a ledger are those that the confirmed transactions of its run add up to.
The relation between them is not stored anywhere: everyone on the roster has reported once in every
round that is over, and at most once in this one, so the reports of an address number the round, or
one more.

Main statements:
- `Balanced.settle`: a transaction that comes to its turn keeps the accounts
- `History.balanced`: so do all the transactions of a history
- `balanced_run`: the accounts hold in every state that a run reaches
-/

namespace Plunder

/-- The whole number that a report adds to a total; nothing if its amount stands for none. -/
def LedgerCall.worth (c : LedgerCall) : Nat := (c.amount?.getD 0).toNat

namespace Ledger

/-! ## Definitions -/

/-- The calls of the applied transactions that took effect, in order. -/
def effective (ds : List Applied) : List LedgerCall :=
  (ds.filter Applied.confirmed).map Applied.call

/-- Whether there is a receipt that says that a transaction was confirmed. -/
def confirms (l : Ledger) (tx : Queued) : Bool := (l.receipt? tx.txHash).any (·.confirmed)

/-- The calls of the accepted transactions of a run whose receipts say that they were confirmed. -/
def confirmedCalls (l : Ledger) (es : List Event) : List LedgerCall :=
  ((l.accepted es).filter (l.run es).confirms).map (·.signed.call)

/-- Whether the state of a ledger is what some confirmed calls add up to. -/
structure Balanced (l : Ledger) (cs : List LedgerCall) : Prop where
  /-- The round is the number of calls that asked for the next one. -/
  round_eq : l.round = (cs.countP LedgerCall.isAdvance : Nat)
  /-- Everyone has reported once in every round that is over, and at most once in this one. -/
  reports_eq : ∀ a ∈ l.setup.addresses, ((cs.countP (LedgerCall.isReportOf a) : Nat) : Int) =
    if a ∈ l.reported then l.round + 1 else l.round
  /-- Every report carries a whole number that is not negative. -/
  amount_eq : ∀ c ∈ cs, c.isReport = true → c.amount? = some (c.worth : Int)
  /-- The total of an address is the sum of what its reports add to it. -/
  totals_eq : ∀ a ∈ l.setup.addresses,
    l.total? a = some ((cs.filter (LedgerCall.isReportOf a)).map LedgerCall.worth).sum
  /-- There is a total for everyone on the roster, and for no one else. -/
  keys_eq : l.totals.map (·.1) = l.setup.addresses
  /-- Only those on the roster have reported. -/
  reported_subset : l.reported ⊆ l.setup.addresses

/-! ## Calls of one kind are of no other -/

private theorem isReport_ne_isAdvance {c : LedgerCall} (h : c.isReport = true) :
    c.isAdvance = false := by
  rw [LedgerCall.isReport, beq_iff_eq] at h
  rw [LedgerCall.isAdvance, h]
  rfl

/-- A report of an address is a report of no other, and not a call for the next round. -/
theorem isAdvance_of_isReportOf {c : LedgerCall} {a : String} (h : c.isReportOf a = true) :
    c.isAdvance = false := by
  rw [LedgerCall.isReportOf, Bool.and_eq_true] at h
  exact isReport_ne_isAdvance h.1

theorem isReportOf_of_ne {c : LedgerCall} {a b : String} (h : c.isReportOf a = true)
    (hne : b ≠ a) : c.isReportOf b = false := by
  simp only [LedgerCall.isReportOf, Bool.and_eq_true, beq_iff_eq] at h
  simp [LedgerCall.isReportOf, h.1, h.2, hne.symm]

theorem isReportOf_of_isAdvance {c : LedgerCall} (h : c.isAdvance = true) (a : String) :
    c.isReportOf a = false := by
  cases hr : c.isReportOf a with
  | false => rfl
  | true => rw [isAdvance_of_isReportOf hr] at h; cases h

/-! ## Totals -/

/-- Credit changes what stands under an address, not which addresses there are. -/
theorem keys_creditTotals (a : String) (n : Nat) (ts : List (String × Nat)) :
    (creditTotals a n ts).map (·.1) = ts.map (·.1) := by
  rw [creditTotals, List.map_map]
  apply List.map_congr_left
  intro t _
  rw [Function.comp_apply]
  split <;> rfl

private theorem find?_creditTotals (a b : String) (n : Nat) (ts : List (String × Nat)) :
    ((creditTotals a n ts).find? (·.1 == b)).map (·.2) =
      ((ts.find? (·.1 == b)).map (·.2)).map fun m => if b = a then m + n else m := by
  induction ts with
  | nil => rfl
  | cons t ts ih =>
    obtain ⟨k, m⟩ := t
    by_cases hkb : k = b
    · subst hkb
      by_cases hka : k = a <;> simp [creditTotals, hka]
    · have hb : (k == b) = false := by simpa using hkb
      rw [creditTotals] at ih ⊢
      by_cases hka : k = a
      · subst hka
        simpa [hb] using ih
      · simpa [hb, hka] using ih

/-- The one who is credited has so much more, and everyone else has what they had. -/
theorem total?_effect_credit (l : Ledger) (a b : String) (n : Nat) :
    (l.effect (.credit a n)).total? b =
      (l.total? b).map fun m => if b = a then m + n else m :=
  find?_creditTotals a b n l.totals

theorem total?_isSome_iff {l : Ledger} {a : String} :
    (l.total? a).isSome = true ↔ a ∈ l.totals.map (·.1) := by
  simp [total?, List.find?_isSome]

theorem outstanding_eq_nil_iff {l : Ledger} :
    l.outstanding = [] ↔ l.setup.addresses ⊆ l.reported := by
  simp [outstanding, Setup.addresses, List.subset_def]

/-! ## One transaction -/

namespace Balanced

variable {l : Ledger} {cs : List LedgerCall}

theorem start (s : Setup) : Balanced (fresh s) [] where
  round_eq := rfl
  reports_eq a _ := by simp [fresh]
  amount_eq := by simp
  totals_eq a ha := by
    have hs : ((fresh s).total? a).isSome = true := by
      rw [total?_isSome_iff]
      simpa [fresh, Function.comp_def] using ha
    obtain ⟨m, hm⟩ := Option.isSome_iff_exists.1 hs
    obtain ⟨t, ht, rfl⟩ := Option.map_eq_some_iff.1 hm
    obtain ⟨b, -, rfl⟩ := List.mem_map.1 (List.mem_of_find?_eq_some ht)
    exact hm
  keys_eq := by simp [fresh, Function.comp_def]
  reported_subset := by simp [fresh]

/-- A credited haul is one more report, by someone who had not reported in this round. -/
theorem credit (h : Balanced l cs) {c : LedgerCall} {a : String} {n : Nat}
    (hc : c.isReportOf a = true) (hn : c.amount? = some (n : Int)) (ha : a ∉ l.reported)
    (hs : (l.total? a).isSome = true) :
    Balanced (l.effect (.credit a n)) (cs ++ [c]) where
  round_eq := by
    rw [List.countP_append, List.countP_singleton, isAdvance_of_isReportOf hc]
    simpa [effect] using h.round_eq
  reports_eq b hb := by
    have hcount := h.reports_eq b (by simpa using hb)
    rw [List.countP_append, List.countP_singleton]
    -- The one who reports is now among those who have; for the others nothing changes.
    by_cases hba : b = a
    · subst hba
      rw [if_neg ha] at hcount
      simp [effect, hc, hcount]
    · simpa [effect, isReportOf_of_ne hc hba, hba] using hcount
  amount_eq := by
    have hw : c.worth = n := by simp [LedgerCall.worth, hn]
    intro c' hc' hr
    rcases List.mem_append.1 hc' with hc' | hc'
    · exact h.amount_eq c' hc' hr
    · rw [List.mem_singleton.1 hc', hn, hw]
  totals_eq b hb := by
    have hw : c.worth = n := by simp [LedgerCall.worth, hn]
    rw [total?_effect_credit, h.totals_eq b (by simpa using hb), List.filter_append]
    by_cases hba : b = a
    · subst hba
      simp [hc, hw]
    · simp [isReportOf_of_ne hc hba, hba]
  keys_eq := by
    rw [effect_setup, ← h.keys_eq]
    exact keys_creditTotals a n l.totals
  reported_subset := by
    rw [total?_isSome_iff, h.keys_eq] at hs
    rw [effect_setup]
    exact List.append_subset.2 ⟨h.reported_subset, by simpa using hs⟩

/-- When the next round begins everyone has reported, so every count of reports is the new round. -/
theorem advance (h : Balanced l cs) {c : LedgerCall} (hc : c.isAdvance = true)
    (ho : l.outstanding = []) : Balanced (l.effect .advance) (cs ++ [c]) where
  round_eq := by
    rw [List.countP_append, List.countP_singleton, hc]
    simp [effect, h.round_eq]
  reports_eq b hb := by
    have hcount := h.reports_eq b (by simpa using hb)
    -- Everyone has reported, so the reports of each are one more than the rounds that are over.
    rw [if_pos (outstanding_eq_nil_iff.1 ho (by simpa using hb))] at hcount
    rw [List.countP_append, List.countP_singleton]
    simp [effect, isReportOf_of_isAdvance hc, hcount]
  amount_eq c' hc' hr := by
    rcases List.mem_append.1 hc' with hc' | hc'
    · exact h.amount_eq c' hc' hr
    · rw [List.mem_singleton.1 hc'] at hr
      rw [isReport_ne_isAdvance hr] at hc
      cases hc
  totals_eq b hb := by
    have htotal : (l.effect .advance).total? b = l.total? b := rfl
    rw [htotal, h.totals_eq b (by simpa using hb)]
    simp [isReportOf_of_isAdvance hc]
  keys_eq := h.keys_eq
  reported_subset := by simp [effect]

/-- What the books say of transactions does not touch the accounts. -/
theorem finalize (h : Balanced l cs) (r : TransactionReceipt) : Balanced (l.finalize r) cs :=
  ⟨h.round_eq, h.reports_eq, h.amount_eq, h.totals_eq, h.keys_eq, h.reported_subset⟩

theorem enqueue (h : Balanced l cs) (hash : String) (s : SignedCall) :
    Balanced (l.enqueue hash s) cs :=
  ⟨h.round_eq, h.reports_eq, h.amount_eq, h.totals_eq, h.keys_eq, h.reported_subset⟩

theorem opened (h : Balanced l cs) : Balanced l.opened cs :=
  ⟨h.round_eq, h.reports_eq, h.amount_eq, h.totals_eq, h.keys_eq, h.reported_subset⟩

/-- **A transaction that comes to its turn keeps the accounts.** -/
theorem settle (h : Balanced l cs) {d : Applied} (hj : l.judge d.call = .ok d.verdict) :
    Balanced (l.settle d) (cs ++ effective [d]) := by
  refine finalize ?_ d.receipt
  cases hv : d.verdict with
  | error r =>
    have hd : effective [d] = [] := by
      simp [effective, Applied.confirmed, hv, Except.isOk, Except.toBool]
    simpa [hd, enact] using h
  | ok e =>
    have hd : effective [d] = [d.call] := by
      simp [effective, Applied.confirmed, hv, Except.isOk, Except.toBool]
    -- Each effect is allowed by the condition under which the rules choose it.
    rw [hd, enact]
    rw [hv] at hj
    cases e with
    | credit a n =>
      obtain ⟨-, hc, hn, hs, ha⟩ := judge_eq_credit_iff.1 hj
      exact h.credit hc hn ha hs
    | advance =>
      obtain ⟨-, hc, ho⟩ := judge_eq_advance_iff.1 hj
      exact h.advance hc ho

end Balanced

/-! ## Blocks, histories and runs -/

theorem effective_append (ds ds' : List Applied) :
    effective (ds ++ ds') = effective ds ++ effective ds' := by
  simp [effective]

theorem Batch.balanced {l l' : Ledger} {ds : List Applied} {cs : List LedgerCall}
    (hb : Batch l ds l') (h : Balanced l cs) : Balanced l' (cs ++ effective ds) := by
  induction hb generalizing cs with
  | nil l => simpa [effective] using h
  | @cons l l' d ds judged _ _ ih =>
    have := ih (h.settle judged)
    rwa [List.append_assoc, ← effective_append] at this

/-- **The transactions of a history add up to the state of the ledger.** -/
theorem History.balanced {s : Setup} {l : Ledger} {acc : List Queued} {ds : List Applied}
    {lost : List Queued} (h : History (fresh s) l acc ds lost) : Balanced l (effective ds) := by
  induction h with
  | start => exact .start s
  | enqueue _ _ ih => exact ih.enqueue _ _
  | block _ _ made ih =>
    rw [effective_append]
    exact made.balanced ih.opened

/-- The confirmed calls of a run, read off its receipts, are the effective ones of its history. -/
theorem History.confirmedCalls_perm {s : Setup} {es : List Event} {ds : List Applied}
    {lost : List Queued}
    (h : History (fresh s) ((fresh s).run es) ((fresh s).accepted es) ds lost) :
    ((fresh s).confirmedCalls es).Perm (effective ds) := by
  have hf := h.filed
  -- What is lost or still waits has no receipt, and what is applied has its own.
  have hnone : (lost ++ ((fresh s).run es).mempool).filter ((fresh s).run es).confirms = [] := by
    apply List.filter_eq_nil_iff.2
    intro tx htx
    rw [confirms, hf.receipt?_of_unapplied htx]
    exact Bool.false_ne_true
  have happlied : ∀ d ∈ ds, (((fresh s).run es).confirms ∘ Applied.tx) d = d.confirmed := by
    intro d hd
    rw [Function.comp_apply, confirms, hf.receipt?_of_mem hd, Option.any_some, confirmed_receipt]
  -- So of all that was accepted only the applied transactions are left.
  refine ((hf.perm.filter _).map _).trans (.of_eq ?_)
  rw [List.append_assoc, List.filter_append, hnone, List.append_nil, List.filter_map, List.map_map,
    effective, List.filter_congr happlied]
  rfl

theorem Balanced.perm {l : Ledger} {cs cs' : List LedgerCall} (h : Balanced l cs)
    (hp : cs.Perm cs') : Balanced l cs' where
  round_eq := by rw [← hp.countP_eq]; exact h.round_eq
  reports_eq a ha := by rw [← hp.countP_eq]; exact h.reports_eq a ha
  amount_eq c hc := h.amount_eq c (hp.mem_iff.2 hc)
  totals_eq a ha := by
    rw [h.totals_eq a ha, ((hp.filter _).map LedgerCall.worth).sum_nat]
  keys_eq := h.keys_eq
  reported_subset := h.reported_subset

/-- **The accounts of every run**: in each state that a founded ledger reaches, the round is the
number of confirmed calls for the next one, everyone on the roster has as many confirmed reports as
there were rounds, and one more if they have reported in this one, and the totals are the sums of
those reports. -/
theorem balanced_run {s : Setup} {l : Ledger} (founded : found s = .ok l) (es : List Event) :
    Balanced (l.run es) (l.confirmedCalls es) := by
  obtain ⟨-, rfl⟩ := found_eq_ok_iff.1 founded
  obtain ⟨ds, lost, h, -⟩ := exists_history (fresh s) es
  exact h.balanced.perm h.confirmedCalls_perm.symm

/-- A roster of two; everyone may sign, and every transaction gets a block of its own at once. -/
def duo : Setup where
  roster := [⟨"A", "Anne"⟩, ⟨"B", "Bart"⟩]
  operators := []
  contractAddress := ""
  blockTime := none
  finalityTimeout := .whole 60
  verifySignatures := false
  render _ := .ok []

/-- Two hauls and a call for the next round. -/
def duoRound : List Event :=
  let call (method : Method) (params : Fields) (nonce : String) : Event :=
    .submit ⟨⟨"", method.text, params, "seed:a", nonce, ⟨2024, 5, 6, 7, 8, 9, 0, some 0⟩⟩, ""⟩
  [call .recordHaul [("participant", .text "A"), ("amount", .text "12")] "1",
    call .recordHaul [("participant", .text "B"), ("amount", .int 30)] "2",
    call .advanceRound [] "3"]

/-- The accounts of a round of two. -/
theorem balanced_run_duo : found duo = .ok (fresh duo) ∧
    Balanced ((fresh duo).run duoRound) ((fresh duo).confirmedCalls duoRound) :=
  have founded : found duo = .ok (fresh duo) := found_eq_ok_iff.2 ⟨by decide, rfl⟩
  ⟨founded, balanced_run founded duoRound⟩

end Ledger
end Plunder
