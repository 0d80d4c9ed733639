import Plunder.Proofs.Call.Signing
import Plunder.Proofs.Ledger.Run

/-!
# Replays

An accepted call is known by a hash that covers the text of its signature, while only the octets
that the text spells are checked. So the same text is never accepted twice, but another text of the
same octets is a transaction of its own.

Main statements:
- `nodup_accepted`: no signed call is accepted twice with the same text
- `accept_again_iff`: when a call that was accepted once is accepted again
-/

namespace Plunder.Ledger

variable {s : Setup} {l : Ledger}

/-! ## What was accepted -/

/-- Everything that is accepted in a run has passed the checks, and is known by its own hash. -/
theorem checked_of_mem_accepted {es : List Event} {tx : Queued} (h : tx ∈ l.accepted es) :
    tx.signed.txHash = .ok tx.txHash ∧
      (l.setup.verifySignatures = true → tx.signed.verify = .ok true) ∧
        l.isForeign tx.signed.call.contract = false := by
  induction es generalizing l with
  | nil => cases h
  | cons e es ih =>
    rcases List.mem_append.1 h with h | h
    · cases e with
      | produce => cases h
      | submit sc =>
        cases ha : l.accept sc with
        | error f => simp [admitted, ha] at h
        | ok hash =>
          have htx : tx = ⟨hash, sc⟩ := by simpa [admitted, ha] using h
          obtain ⟨hf, hv, hh, -⟩ := accept_eq_ok_iff.1 ha
          subst htx
          exact ⟨hh, hv, hf⟩
    · have := ih h
      rwa [isForeign, step_setup, ← isForeign] at this

theorem known_run (s : Setup) (es : List Event) :
    ((fresh s).run es).known = ((fresh s).accepted es).map (·.txHash) := by
  obtain ⟨ds, lost, h, -⟩ := exists_history (fresh s) es
  exact h.filed.known_eq

theorem nodup_hashes_accepted (s : Setup) (es : List Event) :
    (((fresh s).accepted es).map (·.txHash)).Nodup := by
  obtain ⟨ds, lost, h, -⟩ := exists_history (fresh s) es
  rw [← h.filed.known_eq]
  exact h.filed.nodup

/-- No signed call is accepted twice with the same text. -/
theorem nodup_accepted (s : Setup) (es : List Event) :
    (((fresh s).accepted es).map (·.signed)).Nodup := by
  have h := nodup_hashes_accepted s es
  rw [List.Nodup, List.pairwise_map] at h ⊢
  -- The hash covers the text, so equal signed calls would be known by equal hashes.
  refine h.imp_of_mem fun {tx tx'} htx htx' hne hs => hne ?_
  have heq := (checked_of_mem_accepted htx).1
  rw [hs, (checked_of_mem_accepted htx').1] at heq
  exact (Except.ok.inj heq).symm

/-! ## Presenting a call again -/

/-- When a call that was accepted once is accepted again: with a text that spells the same octets
and gives the call another hash. -/
theorem accept_again_iff (checks : s.verifySignatures = true) {es : List Event} {tx : Queued}
    (ht : tx ∈ (fresh s).accepted es) {sc : SignedCall} (same : sc.call = tx.signed.call) :
    (∃ hash, ((fresh s).run es).accept sc = .ok hash) ↔
      sc.signature ≠ "" ∧ signatureOctets? sc.signature = signatureOctets? tx.signed.signature ∧
        ∃ hash, sc.txHash = .ok hash ∧ ∀ tx' ∈ (fresh s).accepted es, tx'.txHash ≠ hash := by
  obtain ⟨-, hv, hf⟩ := checked_of_mem_accepted ht
  -- The contract was checked at the first acceptance, and that of the ledger never changes.
  have hforeign : ((fresh s).run es).isForeign sc.call.contract = false := by
    rwa [isForeign, run_setup, ← isForeign, same]
  have hverify := SignedCall.verify_iff_of_verified (hv checks) same
  simp only [accept_eq_ok_iff, hforeign, run_setup, known_run, List.mem_map, true_and]
  constructor
  · rintro ⟨hash, hs, hh, hn⟩
    obtain ⟨he, ho⟩ := hverify.1 (hs checks)
    exact ⟨he, ho, hash, hh, fun tx' ht' heq => hn ⟨tx', ht', heq⟩⟩
  · rintro ⟨he, ho, hash, hh, hn⟩
    exact ⟨hash, fun _ => hverify.2 ⟨he, ho⟩, hh, fun ⟨tx', ht', heq⟩ => hn tx' ht' heq⟩

/-- **Replays**: with signatures checked, no signed call is ever accepted twice with the same text;
and a call that was accepted in a run is accepted once more after it exactly with the texts that
spell the octets of its signature and give it a hash that no accepted transaction has. -/
theorem replay_iff (founded : found s = .ok l) (checks : s.verifySignatures = true)
    (es : List Event) :
    ((l.accepted es).map (·.signed)).Nodup ∧
      ∀ tx ∈ l.accepted es, ∀ sc : SignedCall, sc.call = tx.signed.call →
        ((∃ hash, (l.run es).accept sc = .ok hash) ↔
          sc.signature ≠ "" ∧
            signatureOctets? sc.signature = signatureOctets? tx.signed.signature ∧
              ∃ hash, sc.txHash = .ok hash ∧ ∀ tx' ∈ l.accepted es, tx'.txHash ≠ hash) := by
  obtain ⟨-, rfl⟩ := found_eq_ok_iff.1 founded
  exact ⟨nodup_accepted s es, fun tx ht sc same => accept_again_iff checks ht same⟩

/-! ## A call that is accepted twice -/

/-- A ledger for one participant that checks signatures; one signer may act. -/
def guarded : Setup where
  roster := [⟨"A", "Anne"⟩]
  operators := ["seed:ops"]
  contractAddress := ""
  blockTime := some (.whole 1)
  finalityTimeout := .whole 60
  verifySignatures := true
  render _ := .ok []

/-- A report by the one who may sign. -/
def soleReport : LedgerCall where
  contract := ""
  method := Method.recordHaul.text
  params := [("participant", .text "A"), ("amount", .text "10")]
  signer := "seed:ops"
  nonce := "n1"
  issuedAt := ⟨2024, 1, 2, 3, 4, 5, 0, some 0⟩

/-- The digits of its signature. -/
def soleDigits : String := "35b4e34472d4944d73c9e7eeada26fa26f17d239c8019000c8627dcdda894ce1"

/-- The report with its signature, behind a mark or none. -/
def solePresented (mark : String) : SignedCall := ⟨soleReport, mark ++ soleDigits⟩

/-- The parameters of the report, sorted. -/
def soleParams : Value := .object [("amount", .text "10"), ("participant", .text "A")]

private theorem sortFields_soleParams :
    (Value.object soleReport.params).sortFields = soleParams := by
  simp [soleReport, soleParams, Value.sortFields, Value.sortEach, List.mergeSort]

private theorem hash_soleReport : soleReport.payloadHash =
    .ok "4107d555582927230507409f217ccbe5a38f87c577b2ab210848f28109703643" :=
  payloadHash_of_ordered rfl sortFields_soleParams (by decide +kernel)

/-- The hash of the report with the digits alone. -/
def soleHash : String :=
  "0x" ++ "c976f7b6d6de4d1f40eee39f556b73d3d66b658b6db0de93a8a2142bd8a3ca78"

/-- The hash of the report with the digits behind a mark. -/
def soleMarkedHash : String :=
  "0x" ++ "bd7fed4fcf6d41c221f561c926569283f612422176f11eafb7401d8503c48558"

private theorem soleHash_ne : soleHash ≠ soleMarkedHash := by
  simp [soleHash, soleMarkedHash]

private theorem hash_solePlain : (solePresented "").txHash = .ok soleHash :=
  txHash_of_ordered rfl sortFields_soleParams (by decide +kernel)

private theorem hash_soleMarked : (solePresented "0x").txHash = .ok soleMarkedHash :=
  txHash_of_ordered rfl sortFields_soleParams (by decide +kernel)

private theorem signature_solePresented_ne (mark : String) :
    (solePresented mark).signature ≠ "" := by
  simp [solePresented, soleDigits]

private theorem verify_solePlain : (solePresented "").verify = .ok true := by
  rw [SignedCall.verify_eq_true_iff]
  refine ⟨signature_solePresented_ne "", _, ⟨"seed:ops"⟩, hash_soleReport, ?_, ?_⟩
  · decide +kernel
  · decide +kernel

private theorem octets_soleMarked :
    signatureOctets? (solePresented "0x").signature =
      signatureOctets? (solePresented "").signature := by
  decide +kernel

private theorem admitted_solePlain :
    (fresh guarded).accepted [.submit (solePresented "")] = [⟨soleHash, solePresented ""⟩] := by
  have ha : (fresh guarded).accept (solePresented "") = .ok soleHash :=
    accept_eq_ok_iff.2 ⟨rfl, fun _ => verify_solePlain, hash_solePlain, by simp [fresh]⟩
  simp [accepted, admitted, ha]

private theorem accept_soleMarked :
    ((fresh guarded).run [.submit (solePresented "")]).accept (solePresented "0x") =
      .ok soleMarkedHash := by
  have same : (solePresented "0x").call = (solePresented "").call := rfl
  have hv := (SignedCall.verify_iff_of_verified verify_solePlain same).2
    ⟨signature_solePresented_ne "0x", octets_soleMarked⟩
  refine accept_eq_ok_iff.2 ⟨?_, fun _ => hv, hash_soleMarked, ?_⟩
  · rw [isForeign, run_setup]
    rfl
  · rw [known_run, admitted_solePlain]
    exact fun h => soleHash_ne (List.mem_singleton.1 h).symm

/-- After the report with the digits alone, the one with the mark is accepted as well. -/
theorem replay_iff_marked :
    (found guarded = .ok (fresh guarded) ∧ guarded.verifySignatures = true) ∧
      ∃ hash, ((fresh guarded).run [.submit (solePresented "")]).accept (solePresented "0x") =
        .ok hash := by
  have founded : found guarded = .ok (fresh guarded) := found_eq_ok_iff.2 ⟨by decide, rfl⟩
  obtain ⟨-, again⟩ := replay_iff founded rfl [.submit (solePresented "")]
  rw [admitted_solePlain] at again
  refine ⟨⟨founded, rfl⟩, (again _ (List.mem_singleton_self _) (solePresented "0x") rfl).2 ?_⟩
  refine ⟨signature_solePresented_ne "0x", octets_soleMarked, soleMarkedHash, hash_soleMarked, ?_⟩
  intro tx htx
  rw [List.mem_singleton.1 htx]
  exact soleHash_ne

/-- One signed report is accepted twice: with the digits of its signature, and with the same digits
behind a mark. -/
theorem accepted_twice : found guarded = .ok (fresh guarded) ∧ guarded.verifySignatures = true ∧
    ((fresh guarded).accepted
      [.submit (solePresented ""), .submit (solePresented "0x")]).map (·.signed.call) =
        [soleReport, soleReport] := by
  refine ⟨found_eq_ok_iff.2 ⟨by decide, rfl⟩, rfl, ?_⟩
  rw [← List.singleton_append, accepted_append, admitted_solePlain]
  simp only [accepted, admitted, accept_soleMarked]
  rfl

end Plunder.Ledger
