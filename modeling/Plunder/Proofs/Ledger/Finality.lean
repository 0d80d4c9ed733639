import Plunder.Proofs.Ledger.Run

/-!
# The finality of transactions

In a calm run every accepted transaction is applied once, in order of acceptance, in the first block
after its acceptance. Where the boundaries of the blocks lie makes no difference to what the
transactions do, only to the numbers on their receipts.

Main statements:
- `History.alike`: the state of a ledger is what its applied transactions make of a new one
- `Placed.step`: a transaction waits for the first block after its acceptance, and is final from
  then on
- `orderly_of_calm`: every calm run is orderly
-/

namespace Plunder.Ledger

/-! ## The state without the block numbers -/

/-- What the receipts say, apart from the numbers of the blocks. -/
def verdicts (l : Ledger) : List (String × ReceiptStatus × String) :=
  l.receipts.map fun e => (e.1, e.2.status, e.2.reason)

/-- Whether two ledgers differ in nothing that the rules look at, and their receipts in nothing but
the numbers of the blocks. -/
structure Alike (l l' : Ledger) : Prop where
  setup : l.setup = l'.setup
  round : l.round = l'.round
  reported : l.reported = l'.reported
  totals : l.totals = l'.totals
  verdicts : l.verdicts = l'.verdicts

namespace Alike

variable {l l' : Ledger}

theorem refl (l : Ledger) : Alike l l := ⟨rfl, rfl, rfl, rfl, rfl⟩

theorem opened (h : Alike l l') : Alike l.opened l' :=
  ⟨h.setup, h.round, h.reported, h.totals, h.verdicts⟩

theorem judge_eq (h : Alike l l') (c : LedgerCall) : l.judge c = l'.judge c := by
  have hact : l.mayAct c.signer = l'.mayAct c.signer := by rw [mayAct, h.setup, mayAct]
  have hout : l.outstanding = l'.outstanding := by
    rw [outstanding, h.setup, h.reported, outstanding]
  have htotal : ∀ a, l.total? a = l'.total? a := fun a => by rw [total?, h.totals, total?]
  have hhaul : ∀ ps, l.judgeHaul ps = l'.judgeHaul ps := by
    intro ps
    simp only [judgeHaul_eq, participantOf, htotal, h.reported]
  simp only [judge, hact, hout, hhaul]

/-- A transaction does the same to both, whatever blocks it is in. -/
theorem settle (h : Alike l l') (tx : Queued) (v : Except Revert Effect) (b b' : Nat) :
    Alike (l.settle ⟨tx, v, b⟩) (l'.settle ⟨tx, v, b'⟩) := by
  have hv : (l.settle ⟨tx, v, b⟩).verdicts = (l'.settle ⟨tx, v, b'⟩).verdicts := by
    have hl := h.verdicts
    simp only [Ledger.verdicts] at hl
    simp only [Ledger.verdicts, settle_receipts, List.map_append, hl]
    cases v <;> rfl
  rcases v with r | e
  · exact ⟨h.setup, h.round, h.reported, h.totals, hv⟩
  · cases e with
    | credit a n =>
      refine ⟨h.setup, h.round, ?_, ?_, hv⟩
      · exact congrArg (· ++ [a]) h.reported
      · exact congrArg (creditTotals a n) h.totals
    | advance => exact ⟨h.setup, congrArg (· + 1) h.round, rfl, h.totals, hv⟩

theorem batch (h : Alike l l') {ds : List Applied} {l₁ : Ledger} (hb : Batch l ds l₁) :
    ∃ ds' l₁', Batch l' ds' l₁' ∧ ds'.map Applied.tx = ds.map Applied.tx ∧ Alike l₁ l₁' := by
  induction hb generalizing l' with
  | nil l => exact ⟨[], l', .nil l', rfl, h⟩
  | @cons l l₁ d ds judged dated _ ih =>
    obtain ⟨tx, v, b⟩ := d
    -- The second ledger gives the same verdict, with the number of its own block.
    obtain ⟨ds', l₁', hb', htx, h₁⟩ := ih (h.settle tx v b l'.block)
    refine ⟨⟨tx, v, l'.block⟩ :: ds', l₁', .cons ?_ rfl hb', ?_, h₁⟩
    · exact (h.judge_eq _).symm.trans judged
    · rw [List.map_cons, List.map_cons, htx]

end Alike

/-- Transactions that came to their turns are applied without a fault. -/
theorem Batch.applyAll_eq {l l' : Ledger} {ds : List Applied} (h : Batch l ds l') :
    (l.applyAll (ds.map Applied.tx)).ledger = l' ∧
      (l.applyAll (ds.map Applied.tx)).fault = none := by
  induction h with
  | nil l => exact ⟨rfl, rfl⟩
  | @cons l l' d ds judged dated _ ih =>
    obtain ⟨tx, v, b⟩ := d
    simp only at dated
    subst dated
    obtain ⟨notes, ha⟩ := apply_eq_ok_iff.2 ⟨v, judged, rfl⟩
    simp only [List.map_cons, applyAll, ha]
    exact ih

/-- **The state of a ledger is what its applied transactions make of a new one**, one after the
other. -/
theorem History.alike {l₀ l : Ledger} {acc : List Queued} {ds : List Applied} {lost : List Queued}
    (h : History l₀ l acc ds lost) :
    (l₀.applyAll (ds.map Applied.tx)).fault = none ∧
      Alike l (l₀.applyAll (ds.map Applied.tx)).ledger := by
  have : ∃ ds' l', Batch l₀ ds' l' ∧ ds'.map Applied.tx = ds.map Applied.tx ∧ Alike l l' := by
    induction h with
    | start => exact ⟨[], l₀, .nil l₀, rfl, .refl l₀⟩
    | enqueue _ _ ih =>
      obtain ⟨ds', l', hb, htx, h'⟩ := ih
      exact ⟨ds', l', hb, htx, h'.setup, h'.round, h'.reported, h'.totals, h'.verdicts⟩
    | block _ _ made ih =>
      obtain ⟨ds₁, l₁, hb₁, htx₁, h₁⟩ := ih
      obtain ⟨ds₂, l₂, hb₂, htx₂, h₂⟩ := h₁.opened.batch made
      refine ⟨ds₁ ++ ds₂, l₂, hb₁.append hb₂, ?_, h₂⟩
      rw [List.map_append, htx₁, htx₂, List.map_append]
  obtain ⟨ds', l', hb, htx, h'⟩ := this
  obtain ⟨hl, hf⟩ := hb.applyAll_eq
  rw [htx] at hl hf
  exact ⟨hf, hl ▸ h'⟩

/-! ## The first block after an acceptance -/

/-- How an accepted transaction stands when it was accepted at some height: it waits as long as no
block is made, and from the next block on it has a receipt with the number of that block. -/
inductive Placed (height : Nat) (tx : Queued) (l : Ledger) : Prop where
  | waiting (block : l.block = height) (waits : tx ∈ l.mempool)
      (unanswered : l.receipt? tx.txHash = none)
  | final (block : height < l.block) (gone : tx ∉ l.mempool) (r : TransactionReceipt)
      (answered : l.receipt? tx.txHash = some r) (dated : r.block = some ((height + 1 : Nat) : Int))

section Placed

variable {s : Setup} {l : Ledger} {acc : List Queued} {ds : List Applied} {lost : List Queued}
  {height : Nat} {tx : Queued}

/-- The next block makes a waiting transaction final. -/
theorem Placed.produce (before : History (fresh s) l acc ds lost) (waits : tx ∈ l.mempool)
    (calm : l.produceBlock.fault = none) :
    Placed l.block tx l.produceBlock.ledger := by
  obtain ⟨ds', lost', hm, hb, -, hn, -⟩ := produceBlock_spec l
  have after := (before.block hm hb).filed
  -- The block loses nothing, so the transaction is among the applied ones.
  rw [hn.1 calm, List.append_nil] at hm
  rw [hm] at waits
  obtain ⟨d, hd, rfl⟩ := List.mem_map.1 waits
  have hblock := hb.block_of_mem d hd
  refine .final ?_ ?_ d.receipt (after.receipt?_of_mem (List.mem_append_right _ hd)) ?_
  · rw [hb.block_eq]
    exact Nat.lt_succ_self _
  · rw [hb.mempool_eq]
    exact List.not_mem_nil
  · rw [block_receipt, hblock]
    rfl

/-- **A transaction waits for the first block after its acceptance, and is final from then on**,
whatever happens, as long as no block ends early. -/
theorem Placed.step (before : History (fresh s) l acc ds lost) (h : Placed height tx l) (e : Event)
    (calm : l.stepFault e = none) : Placed height tx (l.step e) := by
  obtain ⟨ds', lost', after, -⟩ := before.event e
  cases h with
  | final block gone r answered dated =>
    have answered' := receipt?_of_prefix (receipts_prefix_step l e) answered
    refine .final (Nat.lt_of_lt_of_le block (block_le_step l e)) ?_ r answered' dated
    -- A transaction with a receipt is among the applied ones, and so not among the waiting ones.
    intro hmem
    rw [after.filed.receipt?_of_unapplied (List.mem_append_right _ hmem)] at answered'
    cases answered'
  | waiting block waits unanswered =>
    subst block
    rcases step_cases l e with ⟨-, hs, -⟩ | ⟨sc, hash, hacc, -, hs, -⟩ | ⟨-, hs, hf⟩ |
      ⟨sc, hash, hacc, -, hs, hf⟩
    · rw [hs]
      exact .waiting rfl waits unanswered
    · rw [hs]
      exact .waiting rfl (List.mem_append_left _ waits) unanswered
    · rw [hs]
      exact .produce before waits (hf ▸ calm)
    · rw [hs]
      exact .produce (before.enqueue hacc) (List.mem_append_left _ waits) (hf ▸ calm)

/-- An accepted transaction is placed at the height at which it was accepted. -/
theorem Placed.submit (before : History (fresh s) l acc ds lost) {sc : SignedCall} {hash : String}
    (fits : l.accept sc = .ok hash) (calm : l.stepFault (.submit sc) = none) :
    Placed l.block ⟨hash, sc⟩ (l.step (.submit sc)) := by
  have hwaits : (⟨hash, sc⟩ : Queued) ∈ (l.enqueue hash sc).mempool := by simp
  have hnew : (l.enqueue hash sc).receipt? hash = none :=
    (before.enqueue fits).filed.receipt?_of_unapplied (List.mem_append_right _ hwaits)
  cases ht : l.setup.blockTime with
  | some d =>
    rw [Ledger.step, (submit_of_queued fits ht).1]
    exact .waiting rfl hwaits hnew
  | none =>
    rw [Ledger.step, submit_of_immediate fits ht]
    simp only [stepFault, fits, ht] at calm
    exact .produce (before.enqueue fits) hwaits calm

theorem Placed.run (before : History (fresh s) l acc ds lost) (h : Placed height tx l)
    {es : List Event} (calm : l.Calm es) : Placed height tx (l.run es) := by
  induction es generalizing l acc ds lost with
  | nil => exact h
  | cons e es ih =>
    obtain ⟨ds', lost', after, -⟩ := before.event e
    exact ih after (h.step before e calm.1) calm.2

end Placed

/-! ## Calm runs -/

/-- Whether a run is orderly: every accepted transaction is applied once, in order of acceptance, in
the first block after its acceptance, and every other call leaves no trace. -/
structure Orderly (l : Ledger) (es : List Event) : Prop where
  /-- The accepted transactions are those applied and behind them those that wait; and the state is
  what the applied ones make of the first one, one after the other and once each. -/
  applied : ∃ applied, l.accepted es = applied ++ (l.run es).mempool ∧
    (l.applyAll applied).fault = none ∧ Alike (l.run es) (l.applyAll applied).ledger
  /-- No two accepted transactions have one hash. -/
  nodup : ((l.accepted es).map (·.txHash)).Nodup
  /-- Before its acceptance a transaction has no receipt. -/
  unheard : ∀ before sc after hash, es = before ++ .submit sc :: after →
    (l.run before).accept sc = .ok hash → ∀ pre, pre <+: before → (l.run pre).receipt? hash = none
  /-- From then on it waits for the next block, and has the receipt of that block afterwards. -/
  placed : ∀ before sc after hash, es = before ++ .submit sc :: after →
    (l.run before).accept sc = .ok hash → ∀ mid, mid <+: after →
      Placed (l.run before).block ⟨hash, sc⟩ (l.run (before ++ .submit sc :: mid))
  /-- A receipt never changes. -/
  kept : ∀ pre hash r, (l.run pre).receipt? hash = some r → ∀ mid, pre <+: mid →
    (l.run mid).receipt? hash = some r
  /-- A call that is not accepted leaves the ledger as it was, and is no transaction. -/
  rejected : ∀ before sc after f, es = before ++ .submit sc :: after →
    (l.run before).accept sc = .error f →
      l.run (before ++ [.submit sc]) = l.run before ∧
        l.accepted (before ++ [.submit sc]) = l.accepted before

/-- **Every calm run is orderly.** -/
theorem orderly_of_calm {s : Setup} {es : List Event} (calm : (fresh s).Calm es) :
    Orderly (fresh s) es where
  applied := by
    obtain ⟨ds, lost, h, hlost⟩ := exists_history (fresh s) es
    refine ⟨ds.map Applied.tx, h.filed.in_order (hlost calm), h.alike⟩
  nodup := by
    obtain ⟨ds, lost, h, -⟩ := exists_history (fresh s) es
    rw [← h.filed.known_eq]
    exact h.filed.nodup
  unheard before sc after hash hes fits pre hpre := by
    obtain ⟨rest, rfl⟩ := hpre
    obtain ⟨ds, lost, h, -⟩ := exists_history (fresh s) pre
    have hnew := (accept_eq_ok_iff.1 fits).2.2.2
    -- A receipt would be under a hash that is known by the time of the acceptance.
    rw [h.filed.receipt?_eq_none_iff]
    rintro d hd rfl
    refine hnew ?_
    rw [run_append]
    refine (known_prefix_run _ rest).subset ?_
    rw [h.filed.known_eq]
    exact List.mem_map.2 ⟨d.tx, h.filed.mem_accepted_iff.2 (.inl ⟨d, hd, rfl⟩), rfl⟩
  placed before sc after hash hes fits mid hmid := by
    obtain ⟨rest, rfl⟩ := hmid
    rw [hes, calm_append] at calm
    obtain ⟨ds, lost, h, -⟩ := exists_history (fresh s) before
    obtain ⟨ds', lost', h', -⟩ := h.event (.submit sc)
    rw [run_append, run_cons]
    -- It is placed by its acceptance, and every event of the rest keeps it so.
    exact (Placed.submit h fits calm.2.1).run h' (calm_append.1 calm.2.2).1
  kept pre hash r hr mid hmid := by
    obtain ⟨rest, rfl⟩ := hmid
    rw [run_append]
    exact receipt?_of_prefix (receipts_prefix_run _ rest) hr
  rejected before sc after f _ hf := by
    rw [run_append, accepted_append]
    simp [step, submit_of_rejected hf, accepted, admitted, hf]

end Plunder.Ledger
