import Plunder.Proofs.Ledger.Immediate

/-!
# Transactions as a whole

A transaction that comes to its turn either takes its whole effect or none. Who is outstanding is
stored nowhere: it is what the roster and the reports of the round leave, and so it moves with them.

Main statements:
- `rostered_run`: in every state that a run reaches there is a total for everyone on the roster, and
  for no one else
- `allows_iff`: which calls the rules let take effect
- `credited_settle`, `advanced_settle`, `unmoved_settle`: what a transaction leaves as it was
- `apply_ruled`: a transaction as a whole
-/

namespace Plunder.Ledger

/-! ## Definitions -/

/-- Whether the totals of a ledger are those of its roster, on which nobody stands twice: founding
makes it so, and nothing that happens changes it. -/
structure Rostered (l : Ledger) : Prop where
  nodup : l.setup.addresses.Nodup
  keys_eq : l.totals.map (·.1) = l.setup.addresses

/-- Whether the rules let a call take effect. -/
def Allows (l : Ledger) (c : LedgerCall) : Prop :=
  (l.setup.operators = [] ∨ c.signer ∈ l.setup.operators) ∧
    ((c.method = "recordHaul" ∧ ∃ a n, c.participant? = some a ∧ c.amount? = some n ∧ 0 ≤ n ∧
        a ∈ l.setup.addresses ∧ a ∉ l.reported) ∨
      (c.method = "advanceRound" ∧ ∀ a ∈ l.setup.addresses, a ∈ l.reported))

/-- Whether a ledger has come out of another by a haul of an address, and in nothing but that. -/
structure Credited (l : Ledger) (a : String) (n : Nat) (l' : Ledger) : Prop where
  round_eq : l'.round = l.round
  /-- The address is now among those who have reported. -/
  mem_reported_iff : ∀ b, b ∈ l'.reported ↔ b ∈ l.reported ∨ b = a
  /-- Its total grows by the amount. -/
  grown : ∃ m, l.total? a = some m ∧ l'.total? a = some (m + n)
  others : ∀ b, b ≠ a → l'.total? b = l.total? b
  /-- Those who are outstanding lose one, and stay in the order of the roster. -/
  outstanding_eq : ∃ p front back, p.address = a ∧ l.outstanding = front ++ p :: back ∧
    l'.outstanding = front ++ back

/-- Whether a ledger has come out of another by the beginning of a round, and in nothing but that. -/
structure Advanced (l l' : Ledger) : Prop where
  round_eq : l'.round = l.round + 1
  reported_eq : l'.reported = []
  totals_eq : l'.totals = l.totals
  /-- Everyone is outstanding. -/
  outstanding_eq : l'.outstanding = l'.setup.roster

/-- Whether two ledgers are in the same round, with the same reports and totals. -/
structure Unmoved (l l' : Ledger) : Prop where
  round_eq : l'.round = l.round
  reported_eq : l'.reported = l.reported
  totals_eq : l'.totals = l.totals

/-- Whether a ledger has come out of another by a transaction with some receipt, as the rules
say. -/
structure Ruled (l : Ledger) (tx : Queued) (r : TransactionReceipt) (l' : Ledger) : Prop where
  /-- What was fixed stays fixed, and the other transactions wait as before. -/
  setup_eq : l'.setup = l.setup
  block_eq : l'.block = l.block
  mempool_eq : l'.mempool = l.mempool
  known_eq : l'.known = l.known
  /-- The receipt is filed behind the others, under the hash of the transaction. -/
  receipts_eq : l'.receipts = l.receipts ++ [(tx.txHash, r)]
  hash_eq : r.txHash = tx.txHash
  dated : r.block = some (l.block : Int)
  /-- The transaction is confirmed exactly when the rules allow its call. -/
  confirmed_iff : r.status = .confirmed ↔ l.Allows tx.signed.call
  haul : r.status = .confirmed → tx.signed.call.method = "recordHaul" →
    ∃ (a : String) (n : Nat), tx.signed.call.participant? = some a ∧
      tx.signed.call.amount? = some (n : Int) ∧ Credited l a n l'
  advance : r.status = .confirmed → tx.signed.call.method = "advanceRound" → Advanced l l'
  /-- A transaction that is not confirmed is reverted for a reason, and changes nothing. -/
  reverted : r.status ≠ .confirmed → r.status = .reverted ∧ r.reason ≠ "" ∧ Unmoved l l'
  rostered : Rostered l'

/-! ## The roster -/

variable {l l' : Ledger}

theorem rostered_fresh {s : Setup} (h : distinct s.addresses = true) : Rostered (fresh s) where
  nodup := distinct_eq_true_iff.1 h
  keys_eq := by simp [fresh, Function.comp_def]

/-- **The totals are those of the roster** in every state that a run reaches. -/
theorem rostered_run {s : Setup} (founded : found s = .ok l) (es : List Event) :
    Rostered (l.run es) := by
  obtain ⟨hdistinct, rfl⟩ := found_eq_ok_iff.1 founded
  obtain ⟨ds, lost, history, -⟩ := exists_history (fresh s) es
  -- No transaction of the history takes an address out of the totals or adds one.
  refine ⟨?_, history.balanced.keys_eq⟩
  rw [run_setup]
  exact distinct_eq_true_iff.1 hdistinct

namespace Rostered

/-- There is a total for exactly those on the roster. -/
theorem total?_isSome_iff (h : Rostered l) {a : String} :
    (l.total? a).isSome = true ↔ a ∈ l.setup.addresses := by
  rw [Ledger.total?_isSome_iff, h.keys_eq]

theorem settle (h : Rostered l) (d : Applied) : Rostered (l.settle d) := by
  refine ⟨by rw [settle_setup]; exact h.nodup, ?_⟩
  rw [settle_setup, ← h.keys_eq]
  show (l.enact d.verdict).totals.map (·.1) = l.totals.map (·.1)
  cases d.verdict with
  | error r => rfl
  | ok e =>
    cases e with
    | credit a n => exact keys_creditTotals a n l.totals
    | advance => rfl

/-- Those who are outstanding have different addresses. -/
theorem nodup_outstanding (h : Rostered l) : (l.outstanding.map (·.address)).Nodup :=
  h.nodup.sublist (List.filter_sublist.map _)

end Rostered

/-! ## What the rules allow -/

theorem isReportOf_eq_true_iff {c : LedgerCall} {a : String} :
    c.isReportOf a = true ↔ c.method = "recordHaul" ∧ c.participant? = some a := by
  rw [LedgerCall.isReportOf, Bool.and_eq_true, beq_iff_eq, LedgerCall.isReport, beq_iff_eq]
  rfl

/-- **Which calls take effect**: exactly those that the rules allow. -/
theorem allows_iff (rostered : Rostered l) {c : LedgerCall} :
    l.Allows c ↔ ∃ e, l.judge c = .ok (.ok e) := by
  constructor
  · -- A report that is allowed is credited, and a call for the next round begins one.
    rintro ⟨hact, ⟨hmethod, a, n, hp, hn, h0, ha, hnew⟩ | ⟨hmethod, hall⟩⟩
    · obtain ⟨k, rfl⟩ := Int.eq_ofNat_of_zero_le h0
      refine ⟨.credit a k, judge_eq_credit_iff.2 ⟨mayAct_iff.2 hact, ?_, hn, ?_, hnew⟩⟩
      · exact isReportOf_eq_true_iff.2 ⟨hmethod, hp⟩
      · exact rostered.total?_isSome_iff.2 ha
    · refine ⟨.advance, judge_eq_advance_iff.2 ⟨mayAct_iff.2 hact, ?_, ?_⟩⟩
      · rw [LedgerCall.isAdvance, hmethod]
        rfl
      · exact outstanding_eq_nil_iff.2 hall
  · rintro ⟨e, he⟩
    cases e with
    | credit a n =>
      obtain ⟨hact, hreport, hn, hs, hnew⟩ := judge_eq_credit_iff.1 he
      obtain ⟨hmethod, hp⟩ := isReportOf_eq_true_iff.1 hreport
      refine ⟨mayAct_iff.1 hact, .inl ⟨hmethod, a, n, hp, hn, Int.natCast_nonneg n, ?_, hnew⟩⟩
      exact rostered.total?_isSome_iff.1 hs
    | advance =>
      obtain ⟨hact, hadvance, hall⟩ := judge_eq_advance_iff.1 he
      exact ⟨mayAct_iff.1 hact, .inr ⟨beq_iff_eq.1 hadvance, outstanding_eq_nil_iff.1 hall⟩⟩

/-! ## What a transaction leaves as it was -/

/-- A transaction that takes effect changes what its effect changes, and is filed. -/
theorem settle_of_ok {d : Applied} {e : Effect} (verdict : d.verdict = .ok e) :
    l.settle d = (l.effect e).finalize d.receipt := by
  rw [settle, verdict]
  rfl

/-- A transaction that is reverted is filed, and that is all. -/
theorem settle_of_error {d : Applied} {r : Revert} (verdict : d.verdict = .error r) :
    l.settle d = l.finalize d.receipt := by
  rw [settle, verdict]
  rfl

/-- **A credited haul** changes the total and the report of its participant, and no other. -/
theorem credited_settle (rostered : Rostered l) {d : Applied} {a : String} {n : Nat}
    (judged : l.judge d.call = .ok d.verdict) (verdict : d.verdict = .ok (.credit a n)) :
    Credited l a n (l.settle d) := by
  rw [verdict] at judged
  obtain ⟨-, -, -, hs, hnew⟩ := judge_eq_credit_iff.1 judged
  have hsettle : l.settle d = (l.effect (.credit a n)).finalize d.receipt := settle_of_ok verdict
  have htotal (b : String) : (l.settle d).total? b =
      (l.total? b).map fun m => if b = a then m + n else m := by
    rw [hsettle]
    exact total?_effect_credit l a b n
  constructor
  case round_eq =>
    rw [hsettle]
    rfl
  case mem_reported_iff =>
    intro b
    rw [hsettle]
    show b ∈ l.reported ++ [a] ↔ _
    rw [List.mem_append, List.mem_singleton]
  case grown =>
    obtain ⟨m, hm⟩ := Option.isSome_iff_exists.1 hs
    refine ⟨m, hm, ?_⟩
    rw [htotal, hm, Option.map_some, if_pos rfl]
  case others =>
    intro b hb
    rw [htotal]
    simp only [if_neg hb, Option.map_id']
  case outstanding_eq =>
    obtain ⟨p, hp, hpa⟩ := List.mem_map.1 (rostered.total?_isSome_iff.1 hs)
    have hmem : p ∈ l.outstanding := mem_outstanding_iff.2 ⟨hp, hpa ▸ hnew⟩
    obtain ⟨front, back, hsplit⟩ := List.append_of_mem hmem
    refine ⟨p, front, back, hpa, hsplit, ?_⟩
    -- Nobody else who is outstanding has the address.
    have hnodup := rostered.nodup_outstanding
    rw [hsplit, List.map_append, List.map_cons, List.nodup_middle, List.nodup_cons] at hnodup
    have hothers : ∀ q ∈ front ++ back, decide (q.address ≠ a) = true := by
      intro q hq
      rw [decide_eq_true_iff]
      intro hqa
      apply hnodup.1
      rw [← List.map_append, hpa, ← hqa]
      exact List.mem_map_of_mem hq
    have hout : (l.settle d).outstanding = l.outstanding.filter (·.address ≠ a) := by
      rw [hsettle]
      exact outstanding_effect_credit l a n
    rw [hout, hsplit, List.filter_append, List.filter_cons_of_neg (by simp [hpa]),
      ← List.filter_append, List.filter_eq_self.2 hothers]

/-- **A round that begins** changes its number and who has reported, and no total. -/
theorem advanced_settle {d : Applied} (verdict : d.verdict = .ok .advance) :
    Advanced l (l.settle d) := by
  rw [settle_of_ok verdict]
  exact ⟨rfl, rfl, rfl, outstanding_effect_advance l⟩

/-- **A reverted transaction** changes neither the round, nor who has reported, nor a total. -/
theorem unmoved_settle {d : Applied} {r : Revert} (verdict : d.verdict = .error r) :
    Unmoved l (l.settle d) := by
  rw [settle_of_error verdict]
  exact ⟨rfl, rfl, rfl⟩

/-- Every rule that can be broken has something to say for itself. -/
theorem reason_ne (r : Revert) : r.reason ≠ "" := by
  cases r with
  | unknownMethod name => simp [Revert.reason]
  | _ => decide

theorem status_eq_confirmed_iff {d : Applied} :
    d.receipt.status = .confirmed ↔ ∃ e, d.verdict = .ok e := by
  obtain ⟨tx, v, b⟩ := d
  cases v <;> simp [Applied.receipt]

/-! ## A transaction as a whole -/

/-- A transaction on which the rules have a verdict is settled as they say. -/
theorem ruled_settle (rostered : Rostered l) {d : Applied}
    (judged : l.judge d.call = .ok d.verdict) (dated : d.block = l.block) :
    Ruled l d.tx d.receipt (l.settle d) where
  setup_eq := settle_setup l d
  block_eq := settle_block l d
  mempool_eq := settle_mempool l d
  known_eq := settle_known l d
  receipts_eq := settle_receipts l d
  hash_eq := txHash_receipt d
  dated := by rw [block_receipt, dated]
  confirmed_iff := by
    rw [status_eq_confirmed_iff, allows_iff rostered]
    show _ ↔ ∃ e, l.judge d.call = .ok (.ok e)
    rw [judged]
    simp only [Except.ok.injEq]
  haul confirmed method := by
    obtain ⟨e, he⟩ := status_eq_confirmed_iff.1 confirmed
    have hj := judged
    rw [he] at hj
    cases e with
    | credit a n =>
      obtain ⟨-, hreport, hn, -⟩ := judge_eq_credit_iff.1 hj
      have hp := (isReportOf_eq_true_iff.1 hreport).2
      exact ⟨a, n, hp, hn, credited_settle rostered judged he⟩
    | advance =>
      obtain ⟨-, hadvance, -⟩ := judge_eq_advance_iff.1 hj
      have hother : d.call.method = "advanceRound" := beq_iff_eq.1 hadvance
      exact absurd (method.symm.trans hother) (by decide)
  advance confirmed method := by
    obtain ⟨e, he⟩ := status_eq_confirmed_iff.1 confirmed
    rw [he] at judged
    cases e with
    | credit a n =>
      obtain ⟨-, hreport, -⟩ := judge_eq_credit_iff.1 judged
      have hother : d.call.method = "recordHaul" := (isReportOf_eq_true_iff.1 hreport).1
      exact absurd (method.symm.trans hother) (by decide)
    | advance => exact advanced_settle he
  reverted unconfirmed := by
    cases hv : d.verdict with
    | ok e => exact absurd (status_eq_confirmed_iff.2 ⟨e, hv⟩) unconfirmed
    | error r =>
      have hreceipt : d.receipt = ⟨d.tx.txHash, .reverted, some d.block, r.reason⟩ := by
        rw [Applied.receipt, hv]
      rw [hreceipt]
      exact ⟨rfl, reason_ne r, unmoved_settle hv⟩
  rostered := rostered.settle d

/-- A call that does not disrupt the ledger is applied, as the rules say. -/
theorem exists_ruled (rostered : Rostered l) {tx : Queued} (calm : ¬ l.Disrupts tx.signed.call) :
    ∃ l' notes r, l.apply tx = .ok (l', notes) ∧ Ruled l tx r l' := by
  rcases apply_cases l tx with ⟨disrupts, -⟩ | ⟨d, notes, rfl, dated, judged, happly⟩
  · exact absurd disrupts calm
  · exact ⟨l.settle d, notes, d.receipt, happly, ruled_settle rostered judged dated⟩

/-- **A transaction as a whole.** With parameters of JSON, a participant that is no list or object and
an amount that is not infinite, a transaction is applied; it is confirmed exactly when the rules allow
its call, and takes its whole effect then; otherwise it is reverted for a reason, and changes neither
the round, nor who has reported, nor a total. -/
theorem apply_ruled (rostered : Rostered l) (tx : Queued)
    (json : Value.haveJson tx.signed.call.params = true)
    (single : (param tx.signed.call.params "participant").isCollection = false)
    (finite : (param tx.signed.call.params "amount").isInfinite = false) :
    ∃ l' notes r, l.apply tx = .ok (l', notes) ∧ Ruled l tx r l' := by
  apply exists_ruled rostered
  rw [disrupts_iff_of_json json, single, finite]
  rintro ⟨-, -, h | ⟨-, h⟩⟩ <;> exact absurd h Bool.false_ne_true

/-- A report of a haul to the ledger with a roster of two. -/
def duoHaul (hash participant : String) (amount : Value) : Queued :=
  ⟨hash, ⟨⟨"", Method.recordHaul.text, [("participant", .text participant), ("amount", amount)],
    "seed:a", hash, ⟨2024, 5, 6, 7, 8, 9, 0, some 0⟩⟩, ""⟩⟩

/-- A haul of the first on the roster in a new ledger. -/
theorem apply_ruled_duoHaul :
    ∃ l' notes r, (fresh duo).apply (duoHaul "0x01" "A" (.text "12")) = .ok (l', notes) ∧
      Ruled (fresh duo) (duoHaul "0x01" "A" (.text "12")) r l' :=
  apply_ruled (rostered_fresh (by decide)) (duoHaul "0x01" "A" (.text "12")) (by decide)
    (by decide) (by decide)

end Plunder.Ledger
