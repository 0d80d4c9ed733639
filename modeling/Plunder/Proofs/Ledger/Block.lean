import Plunder.Proofs.Ledger.Judgement

/-!
# What a block does

A block applies the waiting transactions one after the other. Every transaction that comes to its
turn is judged in the state that the ones before it have left, takes its effect, and gets its
receipt; the first one that disrupts the ledger ends the block, and those behind it are lost.

Main statements:
- `apply_eq_ok_iff`, `apply_eq_fault_iff`: one transaction
- `applyAll_spec`: a list of transactions, up to the first that disrupts the ledger
- `produceBlock_spec`: a block
-/

namespace Plunder.Ledger

/-! ## Definitions -/

/-- A transaction that has come to its turn, with what the rules said and the block it is in. -/
structure Applied where
  tx : Queued
  verdict : Except Revert Effect
  block : Nat

/-- The call of the transaction. -/
def Applied.call (d : Applied) : LedgerCall := d.tx.signed.call

/-- Whether the transaction took effect. -/
def Applied.confirmed (d : Applied) : Bool := d.verdict.isOk

/-- The receipt of the transaction. -/
def Applied.receipt (d : Applied) : TransactionReceipt :=
  match d.verdict with
  | .ok _ => ⟨d.tx.txHash, .confirmed, some d.block, ""⟩
  | .error r => ⟨d.tx.txHash, .reverted, some d.block, r.reason⟩

/-- The receipt under the hash of the transaction, as the ledger files it. -/
def Applied.entry (d : Applied) : String × TransactionReceipt := (d.tx.txHash, d.receipt)

/-- The ledger after a verdict: with the effect, or as it was. -/
def enact (l : Ledger) : Except Revert Effect → Ledger
  | .ok e => l.effect e
  | .error _ => l

/-- The ledger after a transaction that came to its turn. -/
def settle (l : Ledger) (d : Applied) : Ledger := (l.enact d.verdict).finalize d.receipt

/-- `Batch l ds l'`: from `l` to `l'` the transactions `ds` came to their turns in this order, each
judged in the state that the ones before it left. -/
inductive Batch : Ledger → List Applied → Ledger → Prop where
  | nil (l : Ledger) : Batch l [] l
  | cons {l l' : Ledger} {d : Applied} {ds : List Applied}
      (judged : l.judge d.call = .ok d.verdict) (dated : d.block = l.block)
      (rest : Batch (l.settle d) ds l') :
      Batch l (d :: ds) l'

/-! ## Effects leave the books alone -/

@[simp] theorem effect_setup (l : Ledger) (e : Effect) : (l.effect e).setup = l.setup := by
  cases e <;> rfl

@[simp] theorem effect_block (l : Ledger) (e : Effect) : (l.effect e).block = l.block := by
  cases e <;> rfl

@[simp] theorem effect_mempool (l : Ledger) (e : Effect) : (l.effect e).mempool = l.mempool := by
  cases e <;> rfl

@[simp] theorem effect_known (l : Ledger) (e : Effect) : (l.effect e).known = l.known := by
  cases e <;> rfl

@[simp] theorem effect_receipts (l : Ledger) (e : Effect) :
    (l.effect e).receipts = l.receipts := by
  cases e <;> rfl

@[simp] theorem enact_setup (l : Ledger) (v : Except Revert Effect) :
    (l.enact v).setup = l.setup := by
  cases v <;> simp [enact]

@[simp] theorem enact_block (l : Ledger) (v : Except Revert Effect) :
    (l.enact v).block = l.block := by
  cases v <;> simp [enact]

@[simp] theorem enact_mempool (l : Ledger) (v : Except Revert Effect) :
    (l.enact v).mempool = l.mempool := by
  cases v <;> simp [enact]

@[simp] theorem enact_known (l : Ledger) (v : Except Revert Effect) :
    (l.enact v).known = l.known := by
  cases v <;> simp [enact]

@[simp] theorem enact_receipts (l : Ledger) (v : Except Revert Effect) :
    (l.enact v).receipts = l.receipts := by
  cases v <;> simp [enact]

@[simp] theorem settle_setup (l : Ledger) (d : Applied) : (l.settle d).setup = l.setup := by
  simp [settle, finalize]

@[simp] theorem settle_block (l : Ledger) (d : Applied) : (l.settle d).block = l.block := by
  simp [settle, finalize]

@[simp] theorem settle_mempool (l : Ledger) (d : Applied) :
    (l.settle d).mempool = l.mempool := by
  simp [settle, finalize]

@[simp] theorem settle_known (l : Ledger) (d : Applied) : (l.settle d).known = l.known := by
  simp [settle, finalize]

theorem txHash_receipt (d : Applied) : d.receipt.txHash = d.tx.txHash := by
  cases d with
  | mk tx v b => cases v <;> rfl

theorem block_receipt (d : Applied) : d.receipt.block = some (d.block : Int) := by
  cases d with
  | mk tx v b => cases v <;> rfl

theorem confirmed_receipt (d : Applied) : d.receipt.confirmed = d.confirmed := by
  cases d with
  | mk tx v b => cases v <;> rfl

@[simp] theorem settle_receipts (l : Ledger) (d : Applied) :
    (l.settle d).receipts = l.receipts ++ [d.entry] := by
  simp [settle, finalize, Applied.entry, txHash_receipt]

/-! ## Disruption -/

/-- Whether a call disrupts the ledger depends on who may act, and on nothing that changes. -/
theorem disrupts_congr {l l' : Ledger} (h : l'.setup = l.setup) (c : LedgerCall) :
    l'.Disrupts c ↔ l.Disrupts c := by
  simp [Disrupts, mayAct, h]

/-! ## One transaction -/

/-- A transaction is applied when the rules have a verdict on it, and then takes its effect and gets
its receipt. -/
theorem apply_eq_ok_iff {l l' : Ledger} {tx : Queued} :
    (∃ notes, l.apply tx = .ok (l', notes)) ↔
      ∃ v, l.judge tx.signed.call = .ok v ∧ l' = l.settle ⟨tx, v, l.block⟩ := by
  unfold apply
  cases hj : l.judge tx.signed.call with
  | error f => simp [bind, Except.bind]
  | ok v =>
    cases v with
    | ok e => simp [bind, Except.bind, pure, Except.pure, settle, enact, receiptOf,
        Applied.receipt, eq_comm]
    | error r => simp [bind, Except.bind, pure, Except.pure, settle, enact, receiptOf,
        Applied.receipt, eq_comm]

/-- A transaction ends its block with a fault exactly when its call disrupts the ledger. -/
theorem apply_eq_fault_iff {l : Ledger} {tx : Queued} :
    (∃ f, l.apply tx = .error f) ↔ l.Disrupts tx.signed.call := by
  rw [← judge_eq_fault_iff]
  unfold apply
  rcases l.judge tx.signed.call with f | r | e <;> simp [bind, Except.bind, pure, Except.pure]

/-- **What comes of applying a transaction**: its call disrupts the ledger, and that is a fault; or
the rules have a verdict on it, and it is settled. -/
theorem apply_cases (l : Ledger) (tx : Queued) :
    (l.Disrupts tx.signed.call ∧ ∃ f, l.apply tx = .error f) ∨
      ∃ (d : Applied) (notes : List Note), d.tx = tx ∧ d.block = l.block ∧
        l.judge d.call = .ok d.verdict ∧ l.apply tx = .ok (l.settle d, notes) := by
  cases hj : l.judge tx.signed.call with
  | error f =>
    have hdisrupts := judge_eq_fault_iff.1 ⟨f, hj⟩
    exact .inl ⟨hdisrupts, apply_eq_fault_iff.2 hdisrupts⟩
  | ok v =>
    obtain ⟨notes, happly⟩ := apply_eq_ok_iff.2 ⟨v, hj, rfl⟩
    exact .inr ⟨⟨tx, v, l.block⟩, notes, rfl, rfl, hj, happly⟩

namespace Batch

variable {l l' l'' : Ledger} {ds ds' : List Applied}

theorem append (h : Batch l ds l') (h' : Batch l' ds' l'') : Batch l (ds ++ ds') l'' := by
  induction h with
  | nil l => exact h'
  | cons judged dated _ ih => exact .cons judged dated (ih h')

theorem setup_eq (h : Batch l ds l') : l'.setup = l.setup := by
  induction h with
  | nil l => rfl
  | cons _ _ _ ih => rw [ih, settle_setup]

theorem block_eq (h : Batch l ds l') : l'.block = l.block := by
  induction h with
  | nil l => rfl
  | cons _ _ _ ih => rw [ih, settle_block]

theorem mempool_eq (h : Batch l ds l') : l'.mempool = l.mempool := by
  induction h with
  | nil l => rfl
  | cons _ _ _ ih => rw [ih, settle_mempool]

theorem known_eq (h : Batch l ds l') : l'.known = l.known := by
  induction h with
  | nil l => rfl
  | cons _ _ _ ih => rw [ih, settle_known]

theorem receipts_eq (h : Batch l ds l') : l'.receipts = l.receipts ++ ds.map Applied.entry := by
  induction h with
  | nil l => simp
  | cons _ _ _ ih =>
    rw [ih, settle_receipts, List.map_cons, List.append_assoc, List.singleton_append]

/-- All of them are in the block that is being made. -/
theorem block_of_mem (h : Batch l ds l') : ∀ d ∈ ds, d.block = l.block := by
  induction h with
  | nil l => simp
  | @cons l l' d ds _ dated _ ih =>
    intro d' hd
    rcases List.mem_cons.1 hd with rfl | hd
    · exact dated
    · rw [ih d' hd, settle_block]

/-- No transaction that came to its turn disrupts the ledger. -/
theorem not_disrupts (h : Batch l ds l') : ∀ d ∈ ds, ¬ l.Disrupts d.call := by
  induction h with
  | nil l => simp
  | @cons l l' d ds judged _ _ ih =>
    intro d' hd
    rcases List.mem_cons.1 hd with rfl | hd
    · rw [← judge_eq_fault_iff, judged]
      rintro ⟨_, hf⟩
      cases hf
    · rw [← disrupts_congr (settle_setup l d)]
      exact ih d' hd

end Batch

/-- **A list of transactions**: they come to their turns in order, up to the first that disrupts the
ledger; that one and those behind it leave no trace. -/
theorem applyAll_spec (l : Ledger) (txs : List Queued) :
    ∃ ds lost, txs = ds.map Applied.tx ++ lost ∧ Batch l ds (l.applyAll txs).ledger ∧
      (l.applyAll txs).finals = ds.map (fun d => d.tx.txHash) ∧
        ((l.applyAll txs).fault = none ↔ lost = []) ∧
          ∀ tx ∈ lost.head?, l.Disrupts tx.signed.call := by
  induction txs generalizing l with
  | nil => exact ⟨[], [], rfl, .nil l, rfl, by simp [applyAll], by simp⟩
  | cons tx txs ih =>
    cases ha : l.apply tx with
    | error f =>
      -- The first transaction disrupts the ledger: it is lost with all behind it.
      refine ⟨[], tx :: txs, rfl, ?_, ?_, ?_, ?_⟩
      · simp only [applyAll, ha]
        exact .nil l
      · simp [applyAll, ha]
      · simp [applyAll, ha]
      · rintro _ ⟨⟩
        exact apply_eq_fault_iff.1 ⟨f, ha⟩
    | ok p =>
      obtain ⟨l₁, notes⟩ := p
      obtain ⟨v, hv, rfl⟩ := apply_eq_ok_iff.1 ⟨notes, ha⟩
      -- It is settled, and what is said of the others holds from the ledger that it leaves.
      obtain ⟨ds, lost, htxs, hb, hf, hn, hd⟩ := ih (l.settle ⟨tx, v, l.block⟩)
      refine ⟨⟨tx, v, l.block⟩ :: ds, lost, ?_, ?_, ?_, ?_, ?_⟩
      · simp [htxs]
      · simp only [applyAll, ha]
        exact .cons hv rfl hb
      · simp [applyAll, ha, hf]
      · simp [applyAll, ha, hn]
      · intro tx' h'
        exact (disrupts_congr (settle_setup l _) _).1 (hd tx' h')

/-! ## A block -/

/-- The ledger when the waiting transactions of a new block come to their turns. -/
def opened (l : Ledger) : Ledger := { l with block := l.block + 1, mempool := [] }

@[simp] theorem opened_setup (l : Ledger) : l.opened.setup = l.setup := rfl

@[simp] theorem opened_block (l : Ledger) : l.opened.block = l.block + 1 := rfl

@[simp] theorem opened_mempool (l : Ledger) : l.opened.mempool = [] := rfl

@[simp] theorem opened_known (l : Ledger) : l.opened.known = l.known := rfl

@[simp] theorem opened_receipts (l : Ledger) : l.opened.receipts = l.receipts := rfl

private theorem produceBlock_eq (l : Ledger) :
    l.produceBlock.ledger = (l.opened.applyAll l.mempool).ledger ∧
      l.produceBlock.finals = (l.opened.applyAll l.mempool).finals ∧
        l.produceBlock.fault = (l.opened.applyAll l.mempool).fault := by
  simp only [produceBlock, opened]
  split <;> exact ⟨rfl, rfl, rfl⟩

/-- **A block**: the waiting transactions come to their turns in order of acceptance, up to the
first that disrupts the ledger. -/
theorem produceBlock_spec (l : Ledger) :
    ∃ ds lost, l.mempool = ds.map Applied.tx ++ lost ∧ Batch l.opened ds l.produceBlock.ledger ∧
      l.produceBlock.finals = ds.map (fun d => d.tx.txHash) ∧
        (l.produceBlock.fault = none ↔ lost = []) ∧
          ∀ tx ∈ lost.head?, l.Disrupts tx.signed.call := by
  obtain ⟨hl, hf, he⟩ := produceBlock_eq l
  rw [hl, hf, he]
  exact applyAll_spec l.opened l.mempool

/-- A block leaves no transaction that waits. -/
theorem mempool_produceBlock (l : Ledger) : l.produceBlock.ledger.mempool = [] := by
  obtain ⟨ds, lost, -, hb, -⟩ := produceBlock_spec l
  exact hb.mempool_eq

/-- A block comes to its end exactly when none of the waiting transactions disrupts the ledger. -/
theorem produceBlock_fault_eq_none_iff {l : Ledger} :
    l.produceBlock.fault = none ↔ ∀ tx ∈ l.mempool, ¬ l.Disrupts tx.signed.call := by
  obtain ⟨ds, lost, hm, hb, -, hn, hd⟩ := produceBlock_spec l
  rw [hn, hm]
  constructor
  · rintro rfl tx htx
    obtain ⟨d, hd', rfl⟩ := List.mem_map.1 (by simpa using htx)
    exact hb.not_disrupts d hd'
  · intro h
    cases lost with
    | nil => rfl
    | cons tx lost => exact (h tx (by simp) (hd tx (by simp))).elim

end Plunder.Ledger
