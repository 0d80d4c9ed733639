import Plunder.Proofs.Call.Signing
import Plunder.Proofs.Ledger.Run

/-!
# Block production

A block is not safe from its transactions: one that disrupts the ledger ends it, and those behind
are lost for good, since they are neither applied nor waiting any more and their hashes are known.

Main statement:
- `exists_mined`: what a block makes of the waiting transactions, in every state that a run reaches
-/

namespace Plunder.Ledger

/-- What a block makes of the waiting transactions: `applied` come to their turns, and `lost` do
not. -/
structure Mined (l : Ledger) (applied lost : List Queued) : Prop where
  taken : l.mempool = applied ++ lost
  /-- The block comes to its end exactly when none of them disrupts the ledger. -/
  fault_iff : l.produceBlock.fault = none ↔ ∀ tx ∈ l.mempool, ¬ l.Disrupts tx.signed.call
  /-- Transactions are lost exactly when the block does not come to its end. -/
  lost_iff : lost = [] ↔ l.produceBlock.fault = none
  /-- The first that is lost is the one that disrupts the ledger. -/
  cause : ∀ tx ∈ lost.head?, l.Disrupts tx.signed.call
  finals_eq : l.produceBlock.finals = applied.map (·.txHash)
  block_eq : l.produceBlock.ledger.block = l.block + 1
  emptied : l.produceBlock.ledger.mempool = []
  /-- Earlier receipts stay. -/
  kept : ∀ hash r, l.receipt? hash = some r → l.produceBlock.ledger.receipt? hash = some r
  /-- What is applied has one receipt, with the number of the block. -/
  receipts : ∀ tx ∈ applied, ∃ r : TransactionReceipt,
    l.produceBlock.ledger.receipts.filter (·.1 == tx.txHash) = [(tx.txHash, r)] ∧
      r.block = some ((l.block + 1 : Nat) : Int)
  /-- What is lost never gets a receipt, whatever happens afterwards. -/
  gone : ∀ tx ∈ lost, ∀ es, (l.produceBlock.ledger.run es).receipt? tx.txHash = none

/-- **Block production**: in every state that a founded ledger reaches, a block applies the waiting
transactions in order up to the first that disrupts the ledger, if there is one, and loses the
rest. -/
theorem exists_mined {s : Setup} {l : Ledger} (founded : found s = .ok l) (es : List Event) :
    ∃ applied lost, Mined (l.run es) applied lost := by
  obtain ⟨-, rfl⟩ := found_eq_ok_iff.1 founded
  obtain ⟨ds₀, lost₀, before, -⟩ := exists_history (fresh s) es
  obtain ⟨ds, lost, hm, hb, hf, hn, hd⟩ := produceBlock_spec ((fresh s).run es)
  have after := before.block hm hb
  have hblock := hb.block_eq
  refine ⟨ds.map Applied.tx, lost, hm, produceBlock_fault_eq_none_iff, hn.symm, hd, ?_, hblock,
    hb.mempool_eq, fun _ _ => receipt?_of_prefix (produceBlock_frame _).2.2.1, ?_, ?_⟩
  · rw [hf, List.map_map]
    rfl
  · intro tx htx
    obtain ⟨d, hds, rfl⟩ := List.mem_map.1 htx
    refine ⟨d.receipt, after.filed.receipts_of_mem (List.mem_append_right _ hds), ?_⟩
    rw [block_receipt, hb.block_of_mem d hds, opened_block]
  · -- What is lost stays among the lost of every longer history.
    intro tx htx fs
    obtain ⟨ds', lost', later, -⟩ := after.run fs
    exact later.filed.receipt?_of_unapplied (by simp [htx])

/-! ## A block that does not come to its end -/

/-- A ledger for one participant in which transactions wait; everyone may sign. -/
def unhurried : Setup where
  roster := [⟨"A", "Anne"⟩]
  operators := []
  contractAddress := ""
  blockTime := some (.whole 3600)
  finalityTimeout := .whole 60
  verifySignatures := false
  render _ := .ok []

/-- A report of an amount for the participant. -/
def reportOf (amount : Value) : SignedCall where
  call := {
    contract := ""
    method := Method.recordHaul.text
    params := [("amount", amount), ("participant", .text "A")]
    signer := "seed:ops"
    nonce := "n1"
    issuedAt := ⟨2024, 1, 2, 3, 4, 5, 0, some 0⟩ }
  signature := ""

/-- A report of an infinite amount. -/
def infiniteReport : Queued :=
  ⟨"0x" ++ "1d411ae737ff6f3d2c5a3d8385812a12ef2a30c7478380b0c2ac83a859b8a77d",
    reportOf (.float ⟨0x7FF0000000000000⟩)⟩

/-- A report that is in order. -/
def orderlyReport : Queued :=
  ⟨"0x" ++ "aa50ea68d6d322ee77ec24c1bef98f39da0dc06e8e75e2595ab83c9a93103d8f",
    reportOf (.text "3")⟩

/-- The one report behind the other. -/
def infiniteFirst : List Event := [.submit infiniteReport.signed, .submit orderlyReport.signed]

/-- What a block makes of a report of an infinite amount and of one behind it. -/
theorem exists_mined_infiniteFirst : found unhurried = .ok (fresh unhurried) ∧
    ∃ applied lost, Mined ((fresh unhurried).run infiniteFirst) applied lost :=
  have founded : found unhurried = .ok (fresh unhurried) := found_eq_ok_iff.2 ⟨by decide, rfl⟩
  ⟨founded, exists_mined founded infiniteFirst⟩

private theorem sorted_params (amount : Value) (h : amount.sortFields = amount) :
    (Value.object [("amount", amount), ("participant", .text "A")]).sortFields =
      .object [("amount", amount), ("participant", .text "A")] := by
  simp [Value.sortFields, Value.sortEach, List.mergeSort, h]

-- An infinite amount is hashed as null.
private theorem hash_infiniteReport :
    infiniteReport.signed.txHash = .ok infiniteReport.txHash :=
  txHash_of_ordered rfl (sorted_params .null rfl) (by decide +kernel)

private theorem hash_orderlyReport : orderlyReport.signed.txHash = .ok orderlyReport.txHash :=
  txHash_of_ordered rfl (sorted_params (.text "3") rfl) (by decide +kernel)

private theorem accept_of_unhurried {l : Ledger} (h : l.setup = unhurried) {tx : Queued}
    (hash : tx.signed.txHash = .ok tx.txHash) (new : tx.txHash ∉ l.known)
    (home : tx.signed.call.contract = "") : l.accept tx.signed = .ok tx.txHash := by
  refine accept_eq_ok_iff.2 ⟨?_, ?_, hash, new⟩
  · rw [isForeign, h, home]
    rfl
  · rw [h]
    exact fun checks => nomatch checks

/-- A report that is in order is lost behind one of an infinite amount: neither waits any more, and
there is no receipt. -/
theorem lost_behind_infinite :
    ((fresh unhurried).run infiniteFirst).mempool = [infiniteReport, orderlyReport] ∧
      ((fresh unhurried).run infiniteFirst).produceBlock.fault ≠ none ∧
        ((fresh unhurried).run infiniteFirst).produceBlock.ledger.mempool = [] ∧
          ((fresh unhurried).run infiniteFirst).produceBlock.ledger.receipts = [] := by
  have h₁ := accept_of_unhurried (l := fresh unhurried) rfl hash_infiniteReport (by simp [fresh])
    rfl
  have h₂ := accept_of_unhurried
    (l := (fresh unhurried).enqueue infiniteReport.txHash infiniteReport.signed) rfl
    hash_orderlyReport (by simp [fresh, infiniteReport, orderlyReport]) rfl
  have hrun : (fresh unhurried).run infiniteFirst =
      ((fresh unhurried).enqueue infiniteReport.txHash infiniteReport.signed).enqueue
        orderlyReport.txHash orderlyReport.signed := by
    rw [infiniteFirst, run_cons, step, (submit_of_queued h₁ rfl).1, run_cons, step,
      (submit_of_queued h₂ rfl).1, run_nil]
  have hbad : Disrupts ((fresh unhurried).run infiniteFirst) infiniteReport.signed.call :=
    ⟨by decide, by rw [hrun]; decide, .inl (by decide)⟩
  have hwait : ((fresh unhurried).run infiniteFirst).mempool = [infiniteReport, orderlyReport] := by
    rw [hrun]
    rfl
  obtain ⟨ds, lost, hm, hb, -, -, -⟩ := produceBlock_spec ((fresh unhurried).run infiniteFirst)
  -- A transaction that came to its turn would be the infinite report, which disrupts the ledger.
  have hds : ds = [] := by
    cases ds with
    | nil => rfl
    | cons d ds =>
      rw [hwait, List.map_cons, List.cons_append, List.cons.injEq] at hm
      refine (hb.not_disrupts d List.mem_cons_self ?_).elim
      rw [Applied.call, ← hm.1]
      exact hbad
  refine ⟨hwait, ?_, hb.mempool_eq, ?_⟩
  · rw [Ne, produceBlock_fault_eq_none_iff, hwait]
    exact fun h => h _ List.mem_cons_self hbad
  · rw [hb.receipts_eq, hds, hrun]
    rfl

end Plunder.Ledger
